import WorkflowChain.Compile.Assembly
import WorkflowChain.Proofs.Pipeline.Decoration

/-! # Names of stages

The names under which the stages of a node are assembled begin with the slot of one side of the
node. Such a name tells the node and the side (`Node.StageName.unique`), and it is never the name of
an adapter (`Node.StageName.not_isAdapterName`), so that nothing is in the way of the adapters of a
fragment.
-/

namespace WorkflowChain

/-- The names of stages on one side of a node. -/
inductive Node.StageName (node : Node) : Direction → String → Prop where
  /-- The last template of a side, and an export stage, have the name of the slot. -/
  | plain (direction : Direction) : StageName node direction (node.slot direction)
  /-- Earlier templates have numbers in addition. -/
  | numbered (direction : Direction) (place : Nat) :
      StageName node direction (node.slot direction ++ "_" ++ toString place)
  /-- A conversion stage has a name of its own. -/
  | conversion : StageName node .output (node.slot .output ++ "_convert")

theorem Node.toList_slot (node : Node) (direction : Direction) :
    (node.slot direction).toList =
      "datanode_".toList ++ (Nat.toDigits 10 node.id ++ '_' :: direction.name.toList) := by
  simp [slot, String.toList_append]

/-- A character other than a digit stands in a slot only if it is one of those in every slot. -/
theorem Node.notMem_slot (node : Node) (direction : Direction) {mark : Char}
    (digit : mark.isDigit = false) (letter : mark ∉ "datanode_outputinput".toList) :
    mark ∉ (node.slot direction).toList := by
  have start : "datanode_".toList ⊆ "datanode_outputinput".toList := by decide
  have ending : '_' :: direction.name.toList ⊆ "datanode_outputinput".toList := by
    cases direction <;> decide
  rw [toList_slot, List.mem_append, List.mem_append]
  rintro (member | member | member)
  · exact letter (start member)
  · have number := Nat.isDigit_of_mem_toDigits (by decide) (by decide) member
    rw [digit] at number
    cases number
  · exact letter (ending member)

/-- A number ends where its digits end. -/
theorem takeWhile_isDigit_toDigits (number : Nat) (rest : List Char) :
    (Nat.toDigits 10 number ++ '_' :: rest).takeWhile Char.isDigit = Nat.toDigits 10 number := by
  have digits : ∀ c ∈ Nat.toDigits 10 number, c.isDigit = true :=
    fun _ member => Nat.isDigit_of_mem_toDigits (by decide) (by decide) member
  rw [List.takeWhile_append_of_pos digits, List.takeWhile_cons_of_neg (by decide),
    List.append_nil]

namespace Node.StageName

variable {node other : Node} {direction side : Direction} {name : String}

theorem exists_eq_append (named : node.StageName direction name) :
    ∃ ending, name = node.slot direction ++ ending := by
  cases named with
  | plain => exact ⟨"", String.append_empty.symm⟩
  | numbered _ place => exact ⟨"_" ++ toString place, String.append_assoc⟩
  | conversion => exact ⟨"_convert", rfl⟩

/-- **A name tells the node and the side.** -/
theorem unique (named : node.StageName direction name) (again : other.StageName side name) :
    node.id = other.id ∧ direction = side := by
  obtain ⟨ending, rfl⟩ := named.exists_eq_append
  obtain ⟨rest, same⟩ := again.exists_eq_append
  have letters := congrArg String.toList same
  simp only [String.toList_append, toList_slot, List.append_assoc, List.cons_append] at letters
  have letters := List.append_cancel_left letters
  have digits := congrArg (List.takeWhile Char.isDigit) letters
  rw [takeWhile_isDigit_toDigits, takeWhile_isDigit_toDigits] at digits
  constructor
  · have numbers := congrArg (Nat.ofDigitChars 10 · 0) digits
    simpa only [Nat.ofDigitChars_ten_toDigits] using numbers
  · rw [digits] at letters
    have sides := (List.cons.inj (List.append_cancel_left letters)).2
    cases direction <;> cases side <;> simp [Direction.name] at sides ⊢

/-- The last character of a name is a letter of a fixed ending or a digit. -/
theorem getLast?_toList (named : node.StageName direction name) :
    ∃ c, name.toList.getLast? = some c ∧ (c = 't' ∨ c.isDigit = true) := by
  cases named with
  | plain =>
    refine ⟨'t', ?_, .inl rfl⟩
    rw [toList_slot, List.getLast?_append, List.getLast?_append]
    cases direction <;> rfl
  | numbered _ place =>
    have nonempty : (Nat.toDigits 10 place) ≠ [] := Nat.toDigits_ne_nil
    refine ⟨(Nat.toDigits 10 place).getLast nonempty, ?_, .inr ?_⟩
    · rw [String.toList_append, List.getLast?_append, Nat.toString_eq_repr, Nat.toList_repr,
        List.getLast?_eq_some_getLast nonempty, Option.some_or]
    · exact Nat.isDigit_of_mem_toDigits (by decide) (by decide) (List.getLast_mem nonempty)
  | conversion =>
    refine ⟨'t', ?_, .inl rfl⟩
    rw [String.toList_append, List.getLast?_append]
    rfl

/-- **No adapter has the name of a stage of a node.** -/
theorem not_isAdapterName (named : node.StageName direction name) : ¬IsAdapterName name := by
  obtain ⟨c, last, ending⟩ := named.getLast?_toList
  have differs : ∀ other : Char, other ≠ 't' → other.isDigit = false →
      name.toList.getLast? ≠ some other := by
    rintro other letter digit same
    cases last.symm.trans same
    rcases ending with rfl | ending
    · exact letter rfl
    · rw [digit] at ending
      cases ending
  rintro (rfl | rfl | ⟨origin, rfl⟩)
  · exact differs 's' (by decide) (by decide) rfl
  · exact differs 'e' (by decide) (by decide) rfl
  · exact extractName_ne (differs 'n' (by decide) (by decide)) rfl

end Node.StageName

end WorkflowChain
