/-!
# Columns

A text in a column of a table: cut to so many characters, and filled up with spaces on the right.
-/

namespace PlugAndCharge
namespace Text

/-- A text cut to `precision` characters, if that is given, and filled up to `width`. -/
def column (width : Nat) (precision : Option Nat) (text : String) : String :=
  let characters :=
    match precision with
    | some precision => text.toList.take precision
    | none => text.toList
  String.ofList (characters ++ List.replicate (width - characters.length) ' ')

end Text
end PlugAndCharge
