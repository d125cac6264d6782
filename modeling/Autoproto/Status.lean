import Autoproto.Fault
import Autoproto.Text

namespace Autoproto

open Text

/-!
# Errors that are returned

A function that fails without stopping returns a `Status`, which has a code and a text.
-/

/-- An error. -/
structure Status where
  code : Int
  message : Bytes
  deriving Repr, DecidableEq

/-- The text of an error. -/
def Status.print (status : Status) : Bytes :=
  ascii "[Error : " ++ decimal status.code ++ ascii " : " ++ status.message ++ ascii "]"

end Autoproto
