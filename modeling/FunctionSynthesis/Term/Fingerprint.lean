import FunctionSynthesis.Term

/-!
# Fingerprints of terms

A fingerprint is a number that terms share when they are one member of a set, so
most terms can be told apart by their fingerprints alone
(`Term.fingerprint_eq_of_isSameMember`).
-/

namespace FunctionSynthesis

/-- A number that literals share when they are the same. -/
def Value.fingerprint : Value → UInt64
  | .int n => hash n
  | .str s => hash s
  | .bool b => hash b
  | _ => 0

theorem Value.fingerprint_eq_of_sameLiteral {v w : Value}
    (h : v.sameLiteral w = true) : v.fingerprint = w.fingerprint := by
  simp only [sameLiteral, Bool.and_eq_true, beq_iff_eq] at h
  obtain ⟨sameClass, same⟩ := h
  replace same : equal v w = true := same
  cases v <;> cases w <;>
    simp_all [equal, number?, Number.equal, Number.compare?, fingerprint, className]
  case bool.bool a b => cases a <;> cases b <;> simp_all

namespace Term

mutual

/-- A number that terms share when they are one member of a set. Types of goals
leave no trace in it. -/
def fingerprint : Term → UInt64
  | .literal v => v.fingerprint
  | .var name => mixHash 1 (hash name)
  | .call r m as =>
      mixHash (mixHash (fingerprint r) (hash m)) (fingerprintOfAll as)
  | .field r m as =>
      mixHash 2 (mixHash (mixHash (fingerprint r) (hash m)) (fingerprintOfAll as))
  | .array ts => mixHash 3 (fingerprintOfAll ts)
  | .record es => mixHash 4 (fingerprintOfEntries es)
  | .slice r a b s =>
      mixHash (mixHash (fingerprint r) (fingerprint a))
        (mixHash (fingerprint b) (fingerprintOfStep s))
  | .hole _ _ => 5
  | .filled _ cs => mixHash 6 (fingerprintOfAll cs)
  | .foreign => 7
termination_by structural t => t

def fingerprintOfAll : List Term → UInt64
  | [] => 8
  | t :: ts => mixHash (fingerprint t) (fingerprintOfAll ts)
termination_by structural ts => ts

def fingerprintOfEntries : List (Term × Term) → UInt64
  | [] => 9
  | (k, v) :: es =>
      mixHash (mixHash (fingerprint k) (fingerprint v)) (fingerprintOfEntries es)
termination_by structural es => es

def fingerprintOfStep : Option Term → UInt64
  | .none => 10
  | .some s => fingerprint s
termination_by structural s => s

end

mutual

theorem fingerprint_eq_of_equalWith {same : Ty → Ty → Bool} :
    ∀ {t u : Term}, equalWith same t u = true → t.fingerprint = u.fingerprint
  | .literal v, u, h => by
      cases u <;> simp_all [equalWith, fingerprint]
      exact Value.fingerprint_eq_of_sameLiteral h
  | .var x, u, h => by cases u <;> simp_all [equalWith, fingerprint]
  | .call r m as, u, h => by
      cases u <;> simp_all [equalWith, fingerprint]
      rw [fingerprint_eq_of_equalWith h.1.1, fingerprintOfAll_eq_of_equalAllWith h.2]
  | .field r m as, u, h => by
      cases u <;> simp_all [equalWith, fingerprint]
      rw [fingerprint_eq_of_equalWith h.1.1, fingerprintOfAll_eq_of_equalAllWith h.2]
  | .array ts, u, h => by
      cases u <;> simp_all [equalWith, fingerprint]
      rw [fingerprintOfAll_eq_of_equalAllWith h]
  | .record es, u, h => by
      cases u <;> simp_all [equalWith, fingerprint]
      rw [fingerprintOfEntries_eq_of_equalEntriesWith h]
  | .slice r a b s, u, h => by
      cases u <;> simp_all [equalWith, fingerprint]
      rw [fingerprint_eq_of_equalWith h.1.1.1, fingerprint_eq_of_equalWith h.1.1.2,
        fingerprint_eq_of_equalWith h.1.2, fingerprintOfStep_eq_of_equalStepWith h.2]
  | .hole g d, u, h => by cases u <;> simp_all [equalWith, fingerprint]
  | .filled g cs, u, h => by
      cases u <;> simp_all [equalWith, fingerprint]
      rw [fingerprintOfAll_eq_of_equalAllWith h.2]
  | .foreign, u, h => by cases u <;> simp_all [equalWith, fingerprint]

theorem fingerprintOfAll_eq_of_equalAllWith {same : Ty → Ty → Bool} :
    ∀ {ts us : List Term}, equalAllWith same ts us = true →
      fingerprintOfAll ts = fingerprintOfAll us
  | [], us, h => by cases us <;> simp_all [equalAllWith]
  | t :: ts, us, h => by
      cases us <;> simp_all [equalAllWith, fingerprintOfAll]
      rw [fingerprint_eq_of_equalWith h.1, fingerprintOfAll_eq_of_equalAllWith h.2]

theorem fingerprintOfEntries_eq_of_equalEntriesWith {same : Ty → Ty → Bool} :
    ∀ {es fs : List (Term × Term)}, equalEntriesWith same es fs = true →
      fingerprintOfEntries es = fingerprintOfEntries fs
  | [], fs, h => by cases fs <;> simp_all [equalEntriesWith]
  | (k, v) :: es, fs, h => by
      cases fs <;> simp_all [equalEntriesWith, fingerprintOfEntries]
      rw [fingerprint_eq_of_equalWith h.1.1, fingerprint_eq_of_equalWith h.1.2,
        fingerprintOfEntries_eq_of_equalEntriesWith h.2]

theorem fingerprintOfStep_eq_of_equalStepWith {same : Ty → Ty → Bool} :
    ∀ {s u : Option Term}, equalStepWith same s u = true →
      fingerprintOfStep s = fingerprintOfStep u
  | .none, u, h => by cases u <;> simp_all [equalStepWith]
  | .some s, u, h => by
      cases u <;> simp_all [equalStepWith, fingerprintOfStep]
      exact fingerprint_eq_of_equalWith h

end

/-- Terms that are one member of a set share their fingerprint. -/
theorem fingerprint_eq_of_isSameMember {t u : Term}
    (h : t.isSameMember u = true) : t.fingerprint = u.fingerprint :=
  fingerprint_eq_of_equalWith h

end Term

end FunctionSynthesis
