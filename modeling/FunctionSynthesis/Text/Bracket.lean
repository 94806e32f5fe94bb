/-!
# Nested brackets

How deep the brackets of an expression are nested. Brackets inside quotes do not
count.
-/

namespace FunctionSynthesis.Text

/-- The deepest nesting from a place where `depth` brackets are open and, when
`quote` is given, a quotation that it ends. -/
def nestingFrom (depth : Nat) (quote : Option Char) : List Char → Nat
  | [] => depth
  | c :: cs =>
      match quote with
      | some q =>
          match c, cs with
          | '\\', _ :: rest => nestingFrom depth (some q) rest
          | c, cs => nestingFrom depth (if c = q then none else some q) cs
      | none =>
          if c = '\'' || c = '"' then nestingFrom depth (some c) cs
          else if "([\x7b".toList.contains c then
            max depth (nestingFrom (depth + 1) none cs)
          else if ")]\x7d".toList.contains c then
            max depth (nestingFrom (depth - 1) none cs)
          else nestingFrom depth none cs

/-- How deep the brackets of a text are nested. -/
def nesting (chars : List Char) : Nat :=
  nestingFrom 0 none chars

end FunctionSynthesis.Text
