import FourReg.Proofs.Fault
import FourReg.Proofs.Listing
import FourReg.Proofs.Refinement

/-!
# Roles of operands

The `r` in a listing marks what names a register, so the registers of an instruction can be read off its
text alone, without a look at its opcode. What is read there is what execution goes by. The registers
named from left to right are the fields used as register indices, in the order in which they are checked
(`Instruction.namedRegisters_listing`); those in front of the arrow are all that the result depends on
(`Instruction.result?_congr`), apart from the pointer, which is stored in register 0 anyway.
-/

namespace FourReg

/-- The register that a token of a listing names, by the number behind an `r`. -/
def registerOf? : List Char → Option Int
  | 'r' :: digits => Numeral.toInt? digits
  | _ => none

/-- The token in front of the destination. -/
def arrow : List Char :=
  ['-', '>']

/-- The registers that a listing names, from left to right. -/
def namedRegisters (listing : String) : List Int :=
  (listing.toList.splitOn ' ').filterMap registerOf?

/-- The registers that a listing names as sources, in front of the arrow. -/
def namedSources (listing : String) : List Int :=
  ((listing.toList.splitOn ' ').takeWhile fun token => token ≠ arrow).filterMap registerOf?

/-- The register that a listing names as the destination, behind the arrow. -/
def namedDestination? (listing : String) : Option Int :=
  ((listing.toList.splitOn ' ').dropWhile fun token => token ≠ arrow).findSome? registerOf?

/-! ### What the tokens say -/

theorem registerOf?_registerText (index : Word) :
    registerOf? (registerText index).toList = some index.toInt := by
  rw [registerText, Numeral.text, String.toList_append, String.toList_ofList, String.toList_ofList]
  exact Numeral.toInt?_chars index.toInt

theorem registerOf?_literalText (word : Word) : registerOf? (literalText word).toList = none := by
  obtain ⟨c, rest, hchars, halpha, _⟩ := (literal_chars word.toInt).exists_head
  rw [literalText, Numeral.text, String.toList_ofList, hchars]
  unfold registerOf?
  split
  · rename_i hcons
    cases hcons
    cases halpha
  · rfl

theorem registerOf?_mnemonic (opcode : Opcode) : registerOf? opcode.mnemonic.toList = none := by
  cases opcode <;> rfl

theorem ne_arrow_of_isMark_eq_false {token : List Char} (hmark : isMark token = false) :
    token ≠ arrow := by
  rintro rfl
  cases hmark

/-- The operands in front of the arrow name the registers that the mode reads. -/
theorem AddressMode.filterMap_operandTexts (mode : AddressMode) (a b : Word) :
    [(mode.operandTexts a b).1.toList, (mode.operandTexts a b).2.toList].filterMap registerOf? =
      (mode.sources a b).map Int32.toInt := by
  cases mode with
  | regReg => simp [operandTexts, sources, registerOf?_registerText]
  | regImm => simp [operandTexts, sources, registerOf?_registerText, registerOf?_literalText]
  | immReg => simp [operandTexts, sources, registerOf?_registerText, registerOf?_literalText]

namespace Instruction

/-- The fields among `A` and `B` that an instruction uses as register indices. -/
def sources (instruction : Instruction) : List Word :=
  match Opcode.ofOrdinal? instruction.opcode with
  | none => []
  | some opcode => opcode.mode.sources instruction.a instruction.b

theorem filterMap_tokens_of_unknown {instruction : Instruction}
    (hopcode : Opcode.ofOrdinal? instruction.opcode = none) :
    instruction.tokens.filterMap registerOf? = [] := by
  have hopcodeToken : registerOf? instruction.opcodeToken = none := by
    have hliteral := registerOf?_literalText instruction.opcode
    rw [literalText, Numeral.text, String.toList_ofList] at hliteral
    rw [opcodeToken, hopcode]
    exact hliteral
  have hmark : registerOf? ['?', '?', '?'] = none := rfl
  simp [tokens, hopcode, hmark, hopcodeToken, registerOf?_literalText]

/-- The tokens of an instruction with a known opcode are cut at the arrow, into those in front that name
the sources and the one behind it that names the destination. -/
theorem exists_front_of_known {instruction : Instruction} {opcode : Opcode}
    (hopcode : Opcode.ofOrdinal? instruction.opcode = some opcode) :
    ∃ front, instruction.tokens = front ++ [arrow, (registerText instruction.c).toList] ∧
      (∀ token ∈ front, token ≠ arrow) ∧
      front.filterMap registerOf? = instruction.sources.map Int32.toInt := by
  have hmnemonic := instruction.isMark_opcodeToken
  obtain ⟨ha, hb⟩ := opcode.mode.fieldToken_operandTexts instruction.a instruction.b
  have hoperands := opcode.mode.filterMap_operandTexts instruction.a instruction.b
  rw [opcodeToken, hopcode] at hmnemonic
  refine ⟨[opcode.mnemonic.toList, (opcode.mode.operandTexts instruction.a instruction.b).1.toList,
    (opcode.mode.operandTexts instruction.a instruction.b).2.toList], ?_, ?_, ?_⟩
  · simp only [tokens, opcodeToken, hopcode, arrow, List.cons_append, List.nil_append]
  · simp only [List.forall_mem_cons, List.not_mem_nil, false_imp_iff, implies_true, and_true]
    exact ⟨ne_arrow_of_isMark_eq_false hmnemonic, ne_arrow_of_isMark_eq_false ha.isMark_eq_false,
      ne_arrow_of_isMark_eq_false hb.isMark_eq_false⟩
  · rw [List.filterMap_cons_none (registerOf?_mnemonic opcode), hoperands, sources, hopcode]

theorem indices_of_known {instruction : Instruction} {opcode : Opcode}
    (hopcode : Opcode.ofOrdinal? instruction.opcode = some opcode) :
    instruction.indices = instruction.sources ++ [instruction.c] := by
  rw [indices, sources, hopcode]

theorem namedRegisters_listing (instruction : Instruction) :
    namedRegisters instruction.listing = instruction.indices.map Int32.toInt := by
  rw [namedRegisters, splitOn_listing]
  cases hopcode : Opcode.ofOrdinal? instruction.opcode with
  | none =>
    rw [filterMap_tokens_of_unknown hopcode, indices, hopcode]
    rfl
  | some opcode =>
    obtain ⟨front, htokens, _, hfront⟩ := exists_front_of_known hopcode
    have harrow : registerOf? arrow = none := rfl
    rw [htokens, List.filterMap_append, hfront, indices_of_known hopcode, List.map_append,
      List.filterMap_cons_none harrow, List.filterMap_cons_some (registerOf?_registerText _)]
    rfl

theorem namedSources_listing (instruction : Instruction) :
    namedSources instruction.listing = instruction.sources.map Int32.toInt := by
  rw [namedSources, splitOn_listing]
  cases hopcode : Opcode.ofOrdinal? instruction.opcode with
  | none =>
    have hnone := List.filterMap_eq_nil_iff.mp (filterMap_tokens_of_unknown hopcode)
    rw [sources, hopcode]
    exact List.filterMap_eq_nil_iff.mpr fun token htoken =>
      hnone token ((List.takeWhile_sublist _).subset htoken)
  | some opcode =>
    obtain ⟨front, htokens, hne, hfront⟩ := exists_front_of_known hopcode
    rw [htokens, List.takeWhile_append_of_pos (by simpa using hne),
      List.takeWhile_cons_of_neg (by simp), List.append_nil, hfront]

theorem namedDestination?_listing (instruction : Instruction) :
    namedDestination? instruction.listing =
      (Opcode.ofOrdinal? instruction.opcode).map fun _ => instruction.c.toInt := by
  rw [namedDestination?, splitOn_listing]
  cases hopcode : Opcode.ofOrdinal? instruction.opcode with
  | none =>
    have hnone := List.filterMap_eq_nil_iff.mp (filterMap_tokens_of_unknown hopcode)
    exact List.findSome?_eq_none_iff.mpr fun token htoken =>
      hnone token ((List.dropWhile_sublist _).subset htoken)
  | some opcode =>
    obtain ⟨front, htokens, hne, _⟩ := exists_front_of_known hopcode
    rw [htokens, List.dropWhile_append_of_pos (by simpa using hne),
      List.dropWhile_cons_of_neg (by simp), List.findSome?_cons_of_isNone rfl,
      List.findSome?_cons_of_isSome (by rw [registerOf?_registerText]; rfl)]
    exact registerOf?_registerText instruction.c

/-- Only an instruction with an unknown opcode is listed behind question marks. -/
theorem ofOrdinal?_of_questioned {instruction : Instruction}
    (hquestioned : ['?', '?', '?', ' '] <+: instruction.listing.toList) :
    Opcode.ofOrdinal? instruction.opcode = none := by
  cases hopcode : Opcode.ofOrdinal? instruction.opcode with
  | none => rfl
  | some opcode =>
    obtain ⟨letter, rest, hmnemonic, hlower⟩ := opcode.exists_mnemonic_head
    obtain ⟨tail, htail⟩ := hquestioned
    have hhead := congrArg List.head? htail
    simp only [listing, hopcode, String.toList_append, hmnemonic, List.cons_append, List.head?_cons,
      Option.some.injEq] at hhead
    rw [← hhead] at hlower
    cases hlower

/-! ### What the result depends on -/

end Instruction

theorem AddressMode.pick_congr {mode : AddressMode} {a b : Word} {r s : Int → Int}
    (hagree : ∀ index ∈ mode.sources a b, r index.toInt = s index.toInt) :
    mode.pick r a.toInt b.toInt = mode.pick s a.toInt b.toInt := by
  cases mode with
  | regReg => rw [pick, pick, hagree a (by simp [sources]), hagree b (by simp [sources])]
  | regImm => rw [pick, pick, hagree a (by simp [sources])]
  | immReg => rw [pick, pick, hagree b (by simp [sources])]

namespace Instruction

/-- The result of an instruction depends on its sources alone. -/
theorem result?_congr {instruction : Instruction} {r s : Int → Int}
    (hagree : ∀ index ∈ instruction.sources, r index.toInt = s index.toInt) :
    instruction.result? r = instruction.result? s := by
  cases hopcode : Opcode.ofOrdinal? instruction.opcode with
  | none => rw [result?_of_unknown r hopcode, result?_of_unknown s hopcode]
  | some opcode =>
    rw [sources, hopcode] at hagree
    rw [result?_of_known r hopcode, result?_of_known s hopcode, AddressMode.pick_congr hagree]

theorem effect_of_result? {instruction : Instruction} {r : Int → Int} {value : Int}
    (hresult : instruction.result? r = some value) :
    instruction.effect r = Function.update r instruction.c.toInt (Word.wrap value) := by
  rw [effect, hresult]

/-- What a known opcode leaves in the destination depends on the sources alone. -/
theorem effect_destination_congr {instruction : Instruction} {opcode : Opcode} {r s : Int → Int}
    (hopcode : Opcode.ofOrdinal? instruction.opcode = some opcode)
    (hagree : ∀ index ∈ instruction.sources, r index.toInt = s index.toInt) :
    instruction.effect r instruction.c.toInt = instruction.effect s instruction.c.toInt := by
  have hleft := result?_of_known r hopcode
  have hright := (result?_congr hagree).symm.trans hleft
  rw [effect_of_result? hleft, effect_of_result? hright, Function.update_self, Function.update_self]

end Instruction

/-- The first register out of range that a listing names is the first offending field. -/
theorem Instruction.find?_namedRegisters (instruction : Instruction) :
    (namedRegisters instruction.listing).find? (fun index => index ∉ [0, 1, 2, 3]) =
      instruction.offending?.map Int32.toInt := by
  rw [namedRegisters_listing, List.find?_map, offending?]
  simp only [Function.comp_def, ← Registers.inRange_iff_mem]

namespace Machine

/-- Two machines before the same instruction leave the same value in its destination if they agree in its
sources. They need not agree in register 0, which is the pointer when it is read. -/
theorem destination_congr {left right : Machine} {instruction : Instruction} {opcode : Opcode}
    (hleft : left.status = .running) (hright : right.status = .running)
    (hfetchLeft : left.program.fetch? left.ip = some instruction)
    (hfetchRight : right.program.fetch? right.ip = some instruction) (hip : left.ip = right.ip)
    (hwell : instruction.WellFormed)
    (hopcode : Opcode.ofOrdinal? instruction.opcode = some opcode)
    (hagree : ∀ source ∈ instruction.sources, source.toInt ≠ 0 →
      left.registers.values source.toInt = right.registers.values source.toInt) :
    left.step.machine.registers.values instruction.c.toInt =
      right.step.machine.registers.values instruction.c.toInt := by
  obtain ⟨_, _, hmachineLeft, hvaluesLeft⟩ := step_of_wellFormed hleft hfetchLeft hwell
  obtain ⟨_, _, hmachineRight, hvaluesRight⟩ := step_of_wellFormed hright hfetchRight hwell
  rw [hmachineLeft, hmachineRight]
  dsimp only
  rw [hvaluesLeft, hvaluesRight]
  apply Instruction.effect_destination_congr hopcode
  intro source hmem
  by_cases hpointer : source.toInt = 0
  · rw [hpointer, Function.update_self, Function.update_self, hip]
  · rw [Function.update_of_ne hpointer, Function.update_of_ne hpointer, hagree source hmem hpointer]

theorem exists_error_iff {machine : Machine} {instruction : Instruction}
    (hstatus : machine.status = .running)
    (hfetch : machine.program.fetch? machine.ip = some instruction) :
    (∃ error, machine.step.outcome = .error error) ↔
      ∃ index ∈ namedRegisters instruction.listing, index ∉ [0, 1, 2, 3] := by
  calc (∃ error, machine.step.outcome = .error error)
      ↔ ∃ index, instruction.offending? = some index := by
        simp only [error_step_iff hstatus hfetch]
        exact ⟨fun ⟨_, index, hoffending, _⟩ => ⟨index, hoffending⟩,
          fun ⟨index, hoffending⟩ => ⟨_, index, hoffending, rfl⟩⟩
    _ ↔ ((namedRegisters instruction.listing).find? fun index => index ∉ [0, 1, 2, 3]).isSome := by
        rw [Instruction.find?_namedRegisters, Option.isSome_map, Option.isSome_iff_exists]
    _ ↔ _ := by
        simp only [List.find?_isSome, decide_eq_true_eq]

/-- A cycle goes wrong exactly if the listing of its instruction names a register out of range, and then
for the leftmost such; a listing behind question marks never does. If the cycle succeeds, another value
in a register that is no source in the listing changes neither its outcome nor the value that it leaves
in the destination. -/
theorem step_agrees_with_listing {machine : Machine} {instruction : Instruction}
    (hstatus : machine.status = .running)
    (hfetch : machine.program.fetch? machine.ip = some instruction) :
    ((∃ error, machine.step.outcome = .error error) ↔
      ∃ index ∈ namedRegisters instruction.listing, index ∉ [0, 1, 2, 3]) ∧
    (∀ error, machine.step.outcome = .error error → ∃ index : Word,
      (namedRegisters instruction.listing).find? (fun index => index ∉ [0, 1, 2, 3]) =
          some index.toInt ∧ error = .register (.outOfRange index)) ∧
    (['?', '?', '?', ' '] <+: instruction.listing.toList →
      ∀ error, machine.step.outcome ≠ .error error) ∧
    ∀ executed, machine.step.outcome = .ok executed →
      ∀ (index value : Word) (registers : Registers),
        index.toInt ∉ namedSources instruction.listing →
        machine.registers.set index value = .ok registers →
          let changed := { machine with registers }
          changed.step.outcome = .ok executed ∧
          ∀ destination ∈ namedDestination? instruction.listing,
            changed.step.machine.registers.values destination =
              machine.step.machine.registers.values destination := by
  refine ⟨exists_error_iff hstatus hfetch, fun error herror => ?_,
    fun hquestioned error herror => ?_, ?_⟩
  · obtain ⟨index, hoffending, rfl⟩ := (error_step_iff hstatus hfetch).mp herror
    exact ⟨index, by rw [Instruction.find?_namedRegisters, hoffending, Option.map_some], rfl⟩
  · obtain ⟨index, hoffending, _⟩ := (error_step_iff hstatus hfetch).mp herror
    rw [Instruction.offending?, Instruction.indices,
      Instruction.ofOrdinal?_of_questioned hquestioned] at hoffending
    cases hoffending
  · intro executed hexecuted index value registers hsource hset changed
    have hwell : instruction.WellFormed :=
      wellFormed_of_ne_error hstatus hfetch fun error herror => by cases hexecuted.symm.trans herror
    have hstatusChanged : changed.status = .running := hstatus
    have hfetchChanged : changed.program.fetch? changed.ip = some instruction := hfetch
    obtain ⟨_, houtcome, _⟩ := step_of_wellFormed hstatus hfetch hwell
    obtain ⟨_, houtcomeChanged, _⟩ := step_of_wellFormed hstatusChanged hfetchChanged hwell
    refine ⟨houtcomeChanged.trans (houtcome.symm.trans hexecuted), fun destination hdestination => ?_⟩
    rw [Instruction.namedDestination?_listing, Option.mem_map] at hdestination
    obtain ⟨opcode, hopcode, rfl⟩ := hdestination
    have hvalues := Registers.values_of_set hset
    apply destination_congr hstatusChanged hstatus hfetchChanged hfetch rfl hwell hopcode
    intro source hmem _
    have hne : source.toInt ≠ index.toInt := by
      intro hsame
      rw [Instruction.namedSources_listing, ← hsame] at hsource
      exact hsource (List.mem_map_of_mem hmem)
    exact (congrFun hvalues _).trans (Function.update_of_ne hne _ _)

/-- A comparison with two registers out of range, a row of numbers, and a comparison that reads register 2
of which register 3 is changed. -/
theorem step_agrees_with_listing_comparisons :
    let bad : Instruction := ⟨8, 2, 7, -1⟩
    let unknown : Instruction := ⟨12, 9, 9, 9⟩
    let good : Instruction := ⟨9, 5, 2, 3⟩
    let on (instruction : Instruction) := { load ⟨#[instruction]⟩ with registers := .ofWords 0 0 5 8 }
    bad.listing = "gtrr r2 r7 -> r-1" ∧ unknown.listing = "??? 12 9 9 9" ∧
      good.listing = "eqir 5 r2 -> r3" ∧
      (on bad).step.outcome = .error (.register (.outOfRange 7)) ∧
      (∀ error, (on unknown).step.outcome ≠ .error error) ∧
      { on good with registers := .ofWords 0 0 5 6 }.step.machine.registers.values 3 = 1 := by
  intro bad unknown good on
  have hstatus (instruction : Instruction) : (on instruction).status = .running := rfl
  have hfetch (instruction : Instruction) :
      (on instruction).program.fetch? (on instruction).ip = some instruction := rfl
  obtain ⟨hfaults, hleftmost, _⟩ := step_agrees_with_listing (hstatus bad) (hfetch bad)
  obtain ⟨_, _, hquestioned, _⟩ := step_agrees_with_listing (hstatus unknown) (hfetch unknown)
  obtain ⟨_, _, _, hframe⟩ := step_agrees_with_listing (hstatus good) (hfetch good)
  refine ⟨by decide +kernel, by decide +kernel, by decide +kernel, ?_, ?_, ?_⟩
  · obtain ⟨error, herror⟩ := hfaults.mpr ⟨7, by decide +kernel, by decide⟩
    obtain ⟨index, hfind, rfl⟩ := hleftmost error herror
    have hseven : (namedRegisters bad.listing).find? (fun index => index ∉ [0, 1, 2, 3]) = some 7 := by
      decide +kernel
    have hindex : index.toInt = (7 : Word).toInt := Option.some.inj (hfind.symm.trans hseven)
    rw [herror, Int32.toInt_inj.mp hindex]
  · exact hquestioned (by decide +kernel)
  · obtain ⟨_, hvalue⟩ := hframe (some good) (by decide +kernel) 3 6 (.ofWords 0 0 5 6)
      (by decide +kernel) (by decide +kernel)
    rw [hvalue 3 (by decide +kernel)]
    decide +kernel

end Machine

end FourReg
