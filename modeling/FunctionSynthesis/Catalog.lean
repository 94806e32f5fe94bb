import FunctionSynthesis.Ty.Comparison

/-!
# Catalogs of methods

A catalog lists, by class and method name, the signatures that a method may be
called with. A type variable as the result stands for the parameter of the
receiver's type. `Catalog.standard` lists the methods of texts and lists.
-/

namespace FunctionSynthesis

/-- One way to call a method: the types of its arguments without the receiver,
and of its result. A property is read and not called. -/
structure Signature where
  arguments : List Ty
  result : Ty
  isProperty : Bool := false
  deriving Inhabited

namespace Signature

/-- The types of the arguments and of the result. -/
def display (signature : Signature) : String :=
  let arguments := Value.commaSeparated (signature.arguments.map Ty.display)
  s!"({arguments}) -> {signature.result}"

/-- Whether arguments of these types may be passed: each one fits as it is or
when it is widened. -/
def accepts (signature : Signature) (args : List Ty) : Except Fault Bool :=
  if signature.arguments.length != args.length then return false
  else
    (args.zip signature.arguments).allM fun (actual, expected) =>
      actual.checkedFits expected

/-- The type of the result for a receiver of a given type. -/
def resultFor (signature : Signature) (receiver : Ty) : Ty :=
  match signature.result, receiver with
  | .var _, .generic _ param => param
  | .var _, _ => .top
  | result, _ => result

end Signature

/-- The signatures of one method of one class. -/
structure Listing where
  className : String
  method : String
  signatures : List Signature

/-- Signatures by class and method. -/
structure Catalog where
  listings : List Listing

namespace Catalog

def empty : Catalog := ⟨[]⟩

instance : Inhabited Catalog := ⟨empty⟩

/-- Whether a listing is that of a method. -/
def isListed (className method : String) (listing : Listing) : Bool :=
  listing.className == className && listing.method == method

/-- The signatures of a method, if the catalog knows it. -/
def lookup? (catalog : Catalog) (className method : String) :
    Option (List Signature) :=
  (catalog.listings.find? (isListed className method)).map Listing.signatures

def contains (catalog : Catalog) (className method : String) : Bool :=
  catalog.listings.any (isListed className method)

/-- Every signature with its class and method, in the order of the listings. -/
def entries (catalog : Catalog) : List (String × String × Signature) :=
  catalog.listings.flatMap fun listing =>
    listing.signatures.map fun signature =>
      (listing.className, listing.method, signature)

def size (catalog : Catalog) : Nat :=
  catalog.entries.length

/-- The classes in order of first mention. -/
def classNames (catalog : Catalog) : List String :=
  (catalog.listings.map Listing.className).eraseDups

private def addRow (listings : List Listing) (className method : String)
    (signature : Signature) : List Listing :=
  match listings with
  | [] => [⟨className, method, [signature]⟩]
  | listing :: rest =>
      if isListed className method listing then
        { listing with signatures := listing.signatures ++ [signature] } :: rest
      else
        listing :: addRow rest className method signature

/-- The catalog of a list of rows. Rows for one method are its signatures in
their order, listed where the first of them stands. -/
def ofEntries (rows : List (String × String × Signature)) : Catalog :=
  ⟨rows.foldl (fun listings (className, method, signature) =>
    addRow listings className method signature) []⟩

/-- The methods of texts and lists that programs are built from. Arithmetic is
not listed: it is typed and proposed by rules of its own. -/
def standard : Catalog :=
  let text := Ty.string
  let texts := Ty.generic "list" text
  let toText : Signature := ⟨[], text, false⟩
  ofEntries
    [("str", "upper", toText),
      ("str", "lower", toText),
      ("str", "capitalize", toText),
      ("str", "title", toText),
      ("str", "strip", toText),
      ("str", "replace", ⟨[text, text], text, false⟩),
      ("str", "split", ⟨[text], texts, false⟩),
      ("str", "join", ⟨[texts], text, false⟩),
      ("str", "startswith", ⟨[text], .boolean, false⟩),
      ("str", "__add__", ⟨[text], text, false⟩),
      ("str", "__getitem__", ⟨[.integer], text, true⟩),
      ("list", "__getitem__", ⟨[.integer], .var "T", true⟩)]

end Catalog

end FunctionSynthesis
