import StarNexus.Lib.Run

/-!
# The event stream of the Messages interface

The events of a streamed Claude reply, and the automaton of a client that reads them: a message is started once and first,
every content block is started, filled by deltas of its own type and stopped, all of it before the message is stopped.
-/

namespace StarNexus.Convert

structure ClaudeUsage where
  inputTokens : ℤ := 0
  outputTokens : ℤ := 0
  cacheCreationInputTokens : ℤ := 0
  cacheReadInputTokens : ℤ := 0
  /-- `Ephemeral5mInputTokens` and `Ephemeral1hInputTokens` of `CacheCreation` -/
  cacheCreation : Option (ℤ × ℤ) := none
  deriving DecidableEq

inductive BlockKind where
  | text
  | thinking
  | toolUse
  deriving DecidableEq

inductive ContentBlock where
  | text (text : String)
  | thinking (thinking : String)
  | toolUse (id name : String)
  deriving DecidableEq

inductive BlockDelta where
  | text (text : String)
  | thinking (thinking : String)
  | signature
  | inputJson (partialJson : String)
  deriving DecidableEq

inductive ClaudeEvent where
  | messageStart (id model : String) (usage : ClaudeUsage)
  | contentBlockStart (index : ℕ) (block : ContentBlock)
  | contentBlockDelta (index : ℕ) (delta : BlockDelta)
  | contentBlockStop (index : ℕ)
  | messageDelta (stopReason : String) (usage : ClaudeUsage)
  | messageStop
  deriving DecidableEq

def ContentBlock.kind : ContentBlock → BlockKind
  | .text _ => .text
  | .thinking _ => .thinking
  | .toolUse _ _ => .toolUse

def BlockDelta.kind : BlockDelta → BlockKind
  | .text _ => .text
  | .thinking _ => .thinking
  | .signature => .thinking
  | .inputJson _ => .toolUse

/-! ### The client -/

inductive Phase where
  | before
  | within
  | after
  deriving DecidableEq

/-- What the client knows: the blocks that are started and not stopped, and those that are stopped. -/
structure Client where
  phase : Phase := .before
  opened : List (ℕ × BlockKind) := []
  closed : List ℕ := []

def Client.Used (c : Client) (index : ℕ) : Prop := index ∈ c.opened.map Prod.fst ∨ index ∈ c.closed

instance (c : Client) (index : ℕ) : Decidable (c.Used index) := inferInstanceAs (Decidable (_ ∨ _))

def Client.step (c : Client) : ClaudeEvent → Option Client
  | .messageStart _ _ _ => if c.phase = .before then some { c with phase := .within } else none
  | .contentBlockStart i block =>
    if c.phase = .within ∧ ¬c.Used i then some { c with opened := (i, block.kind) :: c.opened } else none
  | .contentBlockDelta i delta => if c.phase = .within ∧ (i, delta.kind) ∈ c.opened then some c else none
  | .contentBlockStop i =>
    if c.phase = .within ∧ i ∈ c.opened.map Prod.fst then
      some { c with opened := c.opened.filter (·.1 ≠ i), closed := i :: c.closed }
    else none
  | .messageDelta _ _ => if c.phase = .within then some c else none
  | .messageStop => if c.phase = .within ∧ c.opened = [] then some { c with phase := .after } else none

/-- **A valid stream**, complete or not: the client accepts every event. -/
def ValidStream (events : List ClaudeEvent) : Prop := (Lib.runs Client.step {} events).isSome

instance (events : List ClaudeEvent) : Decidable (ValidStream events) := inferInstanceAs (Decidable (_ = true))

end StarNexus.Convert
