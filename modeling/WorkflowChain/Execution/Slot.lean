import WorkflowChain.Text.Split

/-! # Slots of the execution context

The steps of a chain share a context with named slots. A step reads a slot through a reference, and
after it ran it copies results of a pipeline, or files of a tool, into slots.
-/

namespace WorkflowChain.Slot

/-- The text that refers to a slot. -/
def reference (slot : String) : String := "\x7b\x7b ctx." ++ slot ++ " \x7d\x7d"

/-- A copy into a slot that is made after a step. -/
inductive Write where
  /-- The pipeline result of the same name as the slot. -/
  | result (slot : String)
  /-- An output file of a tool. -/
  | file (name slot : String)
  deriving DecidableEq, Repr

namespace Write

/-- The slot that is written. -/
def slot : Write → String
  | .result slot => slot
  | .file _ slot => slot

/-- The name of the port of an output file: a dot cannot be part of it and becomes an underscore. -/
def port (file : String) : String := Text.replaceChar '.' '_' file

/-- The place from which the copy is made. -/
def source : Write → String
  | .result slot => "ctx.current.outputs.results['" ++ slot ++ "']"
  | .file name _ => "ctx.current.outputs['" ++ port name ++ "']"

/-- The text of the copy. -/
def render (write : Write) : String :=
  "\x7b\x7b " ++ write.source ++ "|to_ctx('" ++ write.slot ++ "') \x7d\x7d"

end Write

end WorkflowChain.Slot
