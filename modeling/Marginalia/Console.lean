import Marginalia.Console.Code
import Marginalia.Console.Heading

/-!
# Console messages

Messages for a reader at a console.  Each level of message has a pictogram and a colour, which is
written only where the output goes to a terminal.  A heading on a terminal stands on a ruled line
and may be marked up; elsewhere it stands between dashes as it is.
-/

namespace Marginalia.Console

/-- The level of a message. -/
inductive Level where
  /-- What is going on. -/
  | info
  /-- What went well. -/
  | ok
  /-- What may be wrong. -/
  | warn
  /-- What went wrong. -/
  | fail
deriving DecidableEq, Repr

/-- The pictogram of a level. -/
def Level.pictogram : Level → Text
  | .info => "ℹ️ ".toList
  | .ok => "✅ ".toList
  | .warn => "⚠️ ".toList
  | .fail => "❌ ".toList

/-- The colour of a level. -/
def Level.paint : Level → Paint
  | .info => "36".toList
  | .ok => "32".toList
  | .warn => "33".toList
  | .fail => "31".toList

/-- The name of a level. -/
def Level.name : Level → Text
  | .info => "info".toList
  | .ok => "ok".toList
  | .warn => "warn".toList
  | .fail => "fail".toList

/-- Where output goes. -/
inductive Stream where
  /-- To a reader that may be a terminal. -/
  | writing (terminal : Bool)
  /-- Nowhere. -/
  | absent
deriving DecidableEq, Repr

/-- Whether output goes to a terminal. -/
def Stream.isTerminal : Stream → Bool
  | .writing terminal => terminal
  | .absent => false

/-- Who prints messages. -/
structure Messenger where
  /-- Whether messages start with a pictogram. -/
  emoji : Bool
  /-- Whether messages are coloured; if nothing is said, they are where they go to a terminal. -/
  color : Option Bool
deriving DecidableEq, Repr

namespace Messenger

/-- Whether messages are coloured as far as the messenger is concerned. -/
def wantsColor (m : Messenger) (terminal : Bool) : Bool :=
  m.color.getD terminal

/-- A printed sequence of pieces. -/
def print (m : Messenger) (terminal : Bool) (pieces : List Piece) : Text :=
  Console.print (m.wantsColor terminal && terminal) pieces

/-- A printed message. -/
def emit (m : Messenger) (terminal : Bool) (level : Level) (message : Text) : Text :=
  let text := if m.emoji then level.pictogram ++ message else message
  m.print terminal [⟨if m.wantsColor terminal then level.paint else [], text⟩]

/-- A printed heading.  Only on a terminal it may be refused, since only there it is marked up. -/
def heading (m : Messenger) (terminal : Bool) (title : Text) : Except Markup.Refusal Text :=
  if m.wantsColor terminal && terminal then
    match Console.heading m.emoji title with
    | .ok pieces => .ok ('\n' :: m.print terminal pieces)
    | .error r => .error r
  else .ok (m.print terminal [⟨[], "\n--- ".toList ++ title ++ " ---".toList⟩])

end Messenger

end Marginalia.Console
