/-!
# Columns

A column of a printed line is filled with spaces on the right. Its width counts characters, and a
text that is too long for its column is written in full.
-/

namespace EventLog.Text

def padRight (width : Nat) (text : String) : String :=
  text ++ String.ofList (List.replicate (width - text.toList.length) ' ')

end EventLog.Text
