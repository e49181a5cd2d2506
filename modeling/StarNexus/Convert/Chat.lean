import StarNexus.Lib.Arrange

/-!
# Chat messages

The messages of a chat request, and what a conversation consists of: texts, images, tool calls and tool results.
-/

namespace StarNexus.Convert

/-- `MediaContent`: the kinds that a message can be made of. -/
inductive MediaContent
  | text (text : String) (cacheControl : Option String)
  | imageUrl (url : String)
  | inputAudio (data format : String)
  | file (filename fileData fileId : String)
  | videoUrl (url : String)
  deriving DecidableEq

inductive MessageContent
  | null
  | string (content : String)
  | media (content : List MediaContent)
  deriving DecidableEq

structure ToolCallRequest where
  id : String
  name : String
  arguments : String

structure Message where
  role : String
  content : MessageContent := .null
  name : Option String := none
  toolCalls : Option (List ToolCallRequest) := none
  toolCallId : String := ""

def MessageContent.parseContent : MessageContent → List MediaContent
  | .null => []
  | .string content => [.text content none]
  | .media content => content

def MessageContent.stringContent : MessageContent → String
  | .string content => content
  | _ => ""

def isRemoteImage (url : String) : Bool := "http".toList.isPrefixOf url.toList

/-! ### Conversations -/

inductive Image
  | inline (url : String)
  | remote (url : String)
  deriving DecidableEq

inductive Item
  | text (text : String)
  | image (image : Image)
  | call (id name arguments : String)
  | result (id content : String)
  deriving DecidableEq

inductive ItemKind
  | text
  | image
  | call
  | result
  deriving DecidableEq

def Item.kind : Item → ItemKind
  | .text _ => .text
  | .image _ => .image
  | .call .. => .call
  | .result .. => .result

def Item.Answers : Item → Item → Prop
  | .result id _, .call id' .. => id = id'
  | _, _ => False

instance : ∀ y x : Item, Decidable (y.Answers x)
  | .result id _, .call id' .. => inferInstanceAs (Decidable (id = id'))
  | .text _, _ => isFalse id
  | .image _, _ => isFalse id
  | .call .., _ => isFalse id
  | .result .., .text _ => isFalse id
  | .result .., .image _ => isFalse id
  | .result .., .result .. => isFalse id

/-- Items of a kind stay in their order, a tool result before what followed it, and a tool call before its result. -/
def Item.Held (x y : Item) : Prop := x.kind = y.kind ∨ x.kind = .result ∨ y.Answers x

instance (x y : Item) : Decidable (x.Held y) := inferInstanceAs (Decidable (_ ∨ _ ∨ _))

def readImageUrl (url : String) : Image := if isRemoteImage url then .remote url else .inline url

def MediaContent.item : MediaContent → Option Item
  | .text content _ => some (.text content)
  | .imageUrl url => some (.image (readImageUrl url))
  | _ => none

def Message.items (m : Message) : List Item :=
  if m.role = "tool" then [.result m.toolCallId m.content.stringContent]
  else m.content.parseContent.filterMap MediaContent.item ++ (m.toolCalls.getD []).map fun c => .call c.id c.name c.arguments

end StarNexus.Convert
