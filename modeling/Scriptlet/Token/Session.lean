import Scriptlet.Source.Session
import Scriptlet.Token.Scanner

/-!
# Scanning with places to go back to

The operations on a scanner as data, for histories of scanning in which earlier states are kept
and taken up again.
-/

namespace Scriptlet

namespace Scanner

/-- What can be done with a scanner. -/
inductive Operation where
  /-- Reads one token. -/
  | next
  /-- Reads tokens until there is none. -/
  | rest
  | save
  | restore

/-- What an operation on a scanner tells. -/
inductive Answer where
  | token (found : Option (Located Token))
  | tokens (found : List (Located Token))
  | flag (b : Bool)
  | done

def Operation.step (operation : Operation) (s : Session Scanner) : Answer × Session Scanner :=
  match operation with
  | .next =>
    let (found, after) := s.perform Scanner.next
    (.token found, after)
  | .rest =>
    let (found, after) := s.perform Scanner.scan
    (.tokens found, after)
  | .save => (.done, s.save)
  | .restore =>
    let (found, after) := s.restore
    (.flag found, after)

end Scanner

end Scriptlet
