/-!
# Columns
-/

namespace EpochVoting
namespace Text

/-- A text with spaces after it, to fill a column of the given width; a text that is
too long stays as it is. -/
def column (width : Nat) (text : String) : String :=
  text ++ String.ofList (List.replicate (width - text.length) ' ')

theorem length_column (width : Nat) (text : String) :
    (column width text).length = max width text.length := by
  simp [column, String.length_append]
  omega

end Text
end EpochVoting
