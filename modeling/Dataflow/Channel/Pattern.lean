/-
Names of channels, and patterns that select channels by name.

A name consists of segments with points between them, and no segment may be
empty.  A pattern looks like a name; a star in one of its segments stands for any
part of the same segment of a name and never reaches across a point.
-/
import Dataflow.Channel.Error
import Dataflow.Channel.Glob
import Dataflow.Text.Split

namespace Dataflow
namespace Channel

/-- The bytes of a part of a text. -/
def utf8 (part : List Char) : List UInt8 := part.flatMap String.utf8EncodeChar

/-- The parts of a name between its points. -/
def segments (name : String) : List (List UInt8) := (Text.splitAll '.' name.toList).map utf8

/-- Whether a text can name a channel: no segment is empty. -/
def isName (name : String) : Bool := (segments name).all (fun segment => !segment.isEmpty)

end Channel

structure ChannelPattern where
  text : String
  isName : Channel.isName text = true
  deriving DecidableEq

namespace ChannelPattern

def parse (text : String) : Except TransportError ChannelPattern :=
  if text.isEmpty then .error (.invalidPattern text "pattern is empty")
  else if h : Channel.isName text = true then .ok ⟨text, h⟩
  else .error (.invalidPattern text "pattern contains an empty segment")

/-- Whether the segments of a name match those of a pattern one by one. -/
def segmentsMatch : (pattern name : List (List UInt8)) → Bool
  | [], [] => true
  | p :: pattern, s :: name => Glob.matchesAll p s && segmentsMatch pattern name
  | _, _ => false

def selects (pattern : ChannelPattern) (channel : String) : Bool :=
  segmentsMatch (Channel.segments pattern.text) (Channel.segments channel)

end ChannelPattern
end Dataflow
