import StarNexus.Pricing.Usage

/-!
# The chunks of a streamed chat completion
-/

namespace StarNexus.Convert

structure ToolCallResponse where
  index : Option ℕ := none
  id : String := ""
  name : String := ""
  arguments : String := ""

structure ChoiceDelta where
  content : Option String := none
  reasoningContent : Option String := none
  reasoning : Option String := none
  toolCalls : List ToolCallResponse := []

structure StreamChoice where
  delta : ChoiceDelta := {}
  finishReason : Option String := none

structure Chunk where
  id : String := ""
  model : String := ""
  choices : List StreamChoice := []
  usage : Option Pricing.Usage := none

def ChoiceDelta.getContentString (d : ChoiceDelta) : String := d.content.getD ""

def ChoiceDelta.getReasoningContent (d : ChoiceDelta) : String :=
  match d.reasoningContent, d.reasoning with
  | none, none => ""
  | some reasoningContent, _ => reasoningContent
  | none, some reasoning => reasoning

def Chunk.delta (chunk : Chunk) : ChoiceDelta := (chunk.choices.head?.map StreamChoice.delta).getD {}

def StreamChoice.finished (choice : StreamChoice) : Option String := choice.finishReason.filter (· ≠ "")

end StarNexus.Convert
