import StarNexus.Convert.Chat
import Mathlib.Data.List.DropRight

/-!
# Chat requests as Messages requests

`RequestOpenAI2ClaudeMessage` first formats the chat messages: neighbours of one role whose contents are strings become one
message.  It then builds the messages of the Messages request, in which tool results are part of a user message.
-/

namespace StarNexus.Convert

/-! ### Formatting -/

def quote : Char := Char.ofNat 34

/-- `strings.Trim` of quotation marks. -/
def trimQuotes (s : String) : String := String.ofList ((s.toList.dropWhile (· = quote)).rdropWhile (· = quote))

def placeholder : String := "..."

def MessageContent.isString : MessageContent → Bool
  | .string _ => true
  | _ => false

def Message.merges (lastMessage message : Message) : Bool :=
  lastMessage.role = message.role ∧ lastMessage.role ≠ "tool" ∧ lastMessage.content.isString ∧ message.content.isString

/-- `fmtMessage` before it is joined. The loop sets the role of the request's message, not that of its own copy. -/
def Message.plain (message : Message) : Message :=
  { role := message.role, content := message.content
    toolCallId := if message.role = "tool" then message.toolCallId else ""
    toolCalls := if message.role = "assistant" then message.toolCalls else none }

def Message.filled (message : Message) : Message :=
  if message.content = .null ∨ message.content = .string "" then { message with content := .string placeholder } else message

def fmtMessage (lastMessage message : Message) : Message :=
  if lastMessage.merges message then
    { message.plain with
      content := .string (trimQuotes (lastMessage.content.stringContent ++ " " ++ message.content.stringContent)) }.filled
  else message.plain.filled

structure FormatState where
  formatMessages : List Message := []
  lastMessage : Message := { role := "tool" }

def formatStep (s : FormatState) (message : Message) : FormatState :=
  let fmt := fmtMessage s.lastMessage message
  { formatMessages := (if s.lastMessage.merges message then s.formatMessages.dropLast else s.formatMessages) ++ [fmt]
    lastMessage := fmt }

def formatMessages (messages : List Message) : List Message := (messages.foldl formatStep {}).formatMessages

/-! ### Building -/

/-- `ClaudeMediaMessage` of a built message; `J` are the inputs of tools, and `M` what images and documents become. -/
inductive BuiltBlock (J M : Type*)
  | text (text : String)
  | media (source : M)
  | toolUse (id name : String) (input : J)
  | toolResult (toolUseId : String) (content : MessageContent)

inductive BuiltContent (J M : Type*)
  | string (content : String)
  | blocks (content : List (BuiltBlock J M))

structure BuiltMessage (J M : Type*) where
  role : String
  content : BuiltContent J M

structure BuiltRequest (J M : Type*) where
  isFirstMessage : Bool := true
  systemMessages : List String := []
  claudeMessages : List (BuiltMessage J M) := []

variable {J M : Type*}

def BuiltContent.asBlocks : BuiltContent J M → List (BuiltBlock J M)
  | .string content => [.text content]
  | .blocks content => content

/-- A tool result is added to the last message if that is a user message, and is a new one otherwise. -/
def addToolResult (claudeMessages : List (BuiltMessage J M)) (toolCallId : String) (content : MessageContent) :
    List (BuiltMessage J M) :=
  match claudeMessages.getLast? with
  | some last =>
    if last.role = "user" then
      claudeMessages.dropLast ++ [{ last with content := .blocks (last.content.asBlocks ++ [.toolResult toolCallId content]) }]
    else claudeMessages ++ [⟨"user", .blocks [.toolResult toolCallId content]⟩]
  | none => claudeMessages ++ [⟨"user", .blocks [.toolResult toolCallId content]⟩]

def firstUserMessage : BuiltMessage J M := ⟨"user", .blocks [.text placeholder]⟩

def systemTexts (content : MessageContent) : List String :=
  content.parseContent.filterMap fun
    | .text text _ => if text = "" then none else some text
    | _ => none

section build

variable (unmarshal : String → Option J) (fetch : MediaContent → Except String (Option M))

def mediaBlocks : MediaContent → Except String (List (BuiltBlock J M))
  | .text text _ => .ok (if text = "" then [] else [.text text])
  | part => (fetch part).map fun source => source.toList.map BuiltBlock.media

def toolUseBlocks (toolCalls : List ToolCallRequest) : List (BuiltBlock J M) :=
  toolCalls.filterMap fun toolCall => (unmarshal toolCall.arguments).map (.toolUse toolCall.id toolCall.name ·)

def buildStep (s : BuiltRequest J M) (message : Message) : Except String (BuiltRequest J M) := do
  if message.role = "system" then return { s with systemMessages := s.systemMessages ++ systemTexts message.content }
  let claudeMessages :=
    if s.isFirstMessage ∧ message.role ≠ "user" then s.claudeMessages ++ [firstUserMessage] else s.claudeMessages
  if message.role = "tool" then
    return { s with isFirstMessage := false, claudeMessages := addToolResult claudeMessages message.toolCallId message.content }
  if message.content.isString ∧ message.toolCalls = none then
    let text := message.content.stringContent
    return { s with
      isFirstMessage := false
      claudeMessages := claudeMessages ++ [⟨message.role, .string (if text = "" then placeholder else text)⟩] }
  let blocks ← message.content.parseContent.mapM (mediaBlocks fetch)
  return { s with
    isFirstMessage := false
    claudeMessages :=
      claudeMessages ++ [⟨message.role, .blocks (blocks.flatten ++ toolUseBlocks unmarshal (message.toolCalls.getD []))⟩] }

def requestOpenAI2ClaudeMessage (messages : List Message) : Except String (BuiltRequest J M) :=
  (formatMessages messages).foldlM (buildStep unmarshal fetch) {}

end build

end StarNexus.Convert
