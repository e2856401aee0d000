/-!
# Columns

Text in columns is filled up with blanks on the right; a text that is too long for its column is
not cut.
-/
namespace Backplane.Text

/-- A text in a column of a given width. -/
def column (width : Nat) (s : String) : String :=
  s ++ String.ofList (List.replicate (width - s.length) ' ')

end Backplane.Text
