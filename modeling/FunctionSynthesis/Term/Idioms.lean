import FunctionSynthesis.Term

/-!
# Idioms of text handling

Fixed shapes of terms for common work on texts: the layout of a telephone
number, and the parsing of `key=value` pairs that are joined by `&`.
-/

namespace FunctionSynthesis.Term

/-- A part of a text between two positions that are known. -/
private def part (receiver : Term) (start stop : Int) : Term :=
  receiver.between (.int start) (.int stop)

/-- Ten digits as `"(" + s[0:3] + ") " + s[3:6] + ("-" + s[6:10])`. -/
def phoneNumber (receiver : Term) : Term :=
  let area := ((str "(").plus (receiver.part 0 3)).plus (str ") ")
  (area.plus (receiver.part 3 6)).plus ((str "-").plus (receiver.part 6 10))

/-- The pieces of a text between separators. -/
def splitAt (receiver : Term) (separator : String) : Term :=
  .call receiver "split" [str separator]

/-- The entry that a text `key=value` describes:
`pair.split("=")[0]: pair.split("=")[1]`. -/
def keyValueEntry (pair : Term) : Term × Term :=
  let pieces := pair.splitAt "="
  (pieces.item (.int 0), pieces.item (.int 1))

/-- The first pairs of a text of pairs joined by `&`. -/
def queryPairs (receiver : Term) (count : Nat) : List Term :=
  let pairs := receiver.splitAt "&"
  (List.range count).map fun (i : Nat) => pairs.item (.int i)

end FunctionSynthesis.Term
