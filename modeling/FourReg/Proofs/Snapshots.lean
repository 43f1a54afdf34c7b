import FourReg.Proofs.Documents
import FourReg.Proofs.Stopping
import FourReg.Snapshot
import Mathlib.Data.List.TakeWhile
import Mathlib.Tactic.IntervalCases

/-!
# Snapshots lose nothing

The text of a snapshot is restored to the value that it was taken of. A document of known shape gives
back what it was built from: integers by their numerals, names by their literals, and the fields of a
record by their names, which are all different. A document built in this way is legible, so it is also
the one that its text is read as.

A restored machine is the machine itself and goes on as it would have. A count of cycles is kept as far
as it fits into 64 bits, which is all that has to be known of a machine.
-/

namespace FourReg

theorem mapM_map_eq_some {α β γ : Type} {encode : α → β} {decode : β → Option γ} (value : α → γ)
    {items : List α} (hdecode : ∀ item ∈ items, decode (encode item) = some (value item)) :
    (items.map encode).mapM decode = some (items.map value) := by
  induction items with
  | nil => rfl
  | cons item items ih =>
    obtain ⟨hitem, hothers⟩ := List.forall_mem_cons.mp hdecode
    rw [List.map_cons, List.mapM_cons, hitem, ih hothers]
    rfl

namespace Json

/-! ### Integers -/

theorem exists_toDigits_head {magnitude : Nat} (hmagnitude : magnitude ≠ 0) :
    ∃ c rest, Nat.toDigits 10 magnitude = c :: rest ∧ c ≠ '0' := by
  induction magnitude using Nat.strongRecOn with
  | ind magnitude ih =>
    by_cases hlt : magnitude < 10
    · rw [Nat.toDigits_of_lt_base hlt]
      refine ⟨_, [], rfl, ?_⟩
      interval_cases magnitude <;> first | contradiction | decide
    · obtain ⟨c, rest, hhead, hc⟩ := ih (magnitude / 10) (by omega) (by omega)
      rw [Nat.toDigits_of_base_le (by decide) (by omega), hhead]
      exact ⟨c, _, rfl, hc⟩

theorem isUnsigned_toDigits (magnitude : Nat) : isUnsigned (Nat.toDigits 10 magnitude) = true := by
  by_cases hmagnitude : magnitude = 0
  · rw [hmagnitude]
    rfl
  · obtain ⟨c, rest, hdigits, hc⟩ := exists_toDigits_head hmagnitude
    have hall : ∀ digit ∈ c :: rest, digit.isDigit = true := by
      rw [← hdigits]
      exact fun digit hdigit => Nat.isDigit_of_mem_toDigits (by decide) (by decide) hdigit
    obtain ⟨hfirst, hothers⟩ := List.forall_mem_cons.mp hall
    rw [hdigits, isUnsigned, hfirst, List.dropWhile_eq_nil_iff.mpr hothers]
    · rfl
    · exact hc

theorem isNumber_of_isUnsigned {literal : List Char} (hunsigned : isUnsigned literal = true) :
    isNumber literal = true := by
  unfold isNumber
  split
  · cases hunsigned
  · exact hunsigned

theorem isNumberChar_of_isDigit {c : Char} (hdigit : c.isDigit = true) : isNumberChar c = true := by
  simp [isNumberChar, hdigit]

theorem legible_ofInt (value : Int) : Legible (ofInt value) := by
  have hdigits (magnitude : Nat) : ∀ c ∈ Nat.toDigits 10 magnitude, isNumberChar c = true :=
    fun c hc => isNumberChar_of_isDigit (Nat.isDigit_of_mem_toDigits (by decide) (by decide) hc)
  cases value with
  | ofNat magnitude =>
    exact .number (isNumber_of_isUnsigned (isUnsigned_toDigits magnitude)) (hdigits magnitude)
  | negSucc pred =>
    refine .number (isUnsigned_toDigits (pred + 1)) ?_
    exact List.forall_mem_cons.mpr ⟨rfl, hdigits (pred + 1)⟩

theorem integer?_of_unsigned {literal : List Char} (hunsigned : isUnsigned literal = true) :
    integer? literal =
      (Numeral.magnitude? literal).map fun magnitude => (magnitude : Int) := by
  unfold integer?
  split
  · cases hunsigned
  · cases hunsigned
  · rfl

@[simp] theorem toInt?_ofInt (value : Int) : (ofInt value).toInt? = some value := by
  unfold ofInt toInt?
  cases value with
  | ofNat magnitude =>
    dsimp only [Numeral.chars]
    rw [integer?_of_unsigned (isUnsigned_toDigits magnitude), Numeral.magnitude?_toDigits]
    rfl
  | negSucc pred =>
    dsimp only [Numeral.chars]
    rw [integer?, Numeral.magnitude?_toDigits]
    · rfl
    -- The digits of a positive magnitude are not those of a negative zero.
    · intro hzero
      have hmagnitude := Numeral.magnitude?_toDigits (pred + 1)
      rw [hzero] at hmagnitude
      cases hmagnitude

@[simp] theorem toWord?_toJson (word : Word) : toWord? word.toJson = some word := by
  simp [toWord?, Word.toJson]

theorem toCount?_of_toInt? {document : Json} {value : Int} (hvalue : document.toInt? = some value)
    (hfits : 0 ≤ value ∧ value < UInt64.size) : document.toCount? = some value.toNat := by
  rw [toCount?, hvalue]
  exact if_pos hfits

theorem toCount?_ofInt {count : Nat} (hcount : count < UInt64.size) :
    (ofInt count).toCount? = some count :=
  toCount?_of_toInt? (toInt?_ofInt count) ⟨Int.natCast_nonneg count, Int.ofNat_lt.mpr hcount⟩

/-! ### Names and records -/

theorem legible_ofText (text : String) : Legible (ofText text) :=
  .string (closed_encodeString text.toList)

theorem alternative?_ofText {α : Type} (all : List α) (name : α → String) (text : String) :
    alternative? all name (ofText text) =
      all.find? fun value => (name value).toList == text.toList := by
  simp [alternative?, ofText]

theorem legible_ofFields {fields : List (String × Json)}
    (hvalues : ∀ field ∈ fields, Legible field.2) : Legible (ofFields fields) := by
  refine .object (List.forall_mem_map.mpr fun field _ => ?_) (List.forall_mem_map.mpr hvalues)
  exact closed_encodeString field.1.toList

/-- Among fields of different names each is found by its own. -/
theorem field?_of_nodup {fields : List (String × Json)} (hnodup : (fields.map Prod.fst).Nodup)
    {field : String × Json} (hfield : field ∈ fields) :
    field? (fields.map fun field => (field.1.toList, field.2)) field.1 = some (some field.2) := by
  have hfilter : (fields.map fun field => (field.1.toList, field.2)).filter
      (fun member => member.1 == field.1.toList) = [(field.1.toList, field.2)] := by
    induction fields with
    | nil => cases hfield
    | cons first fields ih =>
      obtain ⟨hfirst, hothers⟩ := List.nodup_cons.mp hnodup
      have hname (other : String × Json) (hother : other ∈ fields) :
          first.1.toList ≠ other.1.toList := fun hsame =>
        hfirst (List.mem_map.mpr ⟨other, hother, (String.toList_inj.mp hsame).symm⟩)
      rw [List.map_cons]
      rcases List.mem_cons.mp hfield with rfl | hmem
      · rw [List.filter_cons_of_pos (by simp), List.filter_eq_nil_iff.mpr]
        exact List.forall_mem_map.mpr fun other hother => by simpa using (hname other hother).symm
      · rw [List.filter_cons_of_neg (by simpa using hname field hmem), ih hothers hmem]
  rw [field?, hfilter]

theorem fields?_ofFields {names : List String} {fields : List (String × Json)}
    (hnames : fields.map Prod.fst = names) (hnodup : names.Nodup) :
    (ofFields fields).fields? names = some (fields.map fun field => some field.2) := by
  subst hnames
  have hmembers : (fields.map fun field => (encodeString field.1.toList, field.2)).mapM
      (fun member => (decodeString? member.1).map fun key => (key, member.2)) =
        some (fields.map fun field => (field.1.toList, field.2)) :=
    mapM_map_eq_some _ fun field _ => by simp
  have hvalues : (fields.map Prod.fst).mapM
      (field? (fields.map fun field => (field.1.toList, field.2))) =
        some (fields.map fun field => some field.2) :=
    mapM_map_eq_some _ fun field hfield => field?_of_nodup hnodup hfield
  simp only [ofFields, fields?, hmembers, Option.bind_eq_bind, Option.bind_some]
  exact hvalues

/-! ### Texts -/

/-- The value that a text holds, as far as it is a document of the right shape. -/
def restore? {α : Type} (ofJson? : Json → Option α) (text : String) : Option α :=
  (read? text.toList).bind ofJson?

theorem restore?_compact {α : Type} {ofJson? : Json → Option α} {document : Json} {value : α}
    (hlegible : Legible document) (hvalue : ofJson? document = some value) :
    restore? ofJson? document.compact = some value := by
  rw [restore?, hlegible.read?_compact, Option.bind_some, hvalue]

end Json

/-! ### The values of the machine -/

theorem Word.legible_toJson (word : Word) : word.toJson.Legible :=
  Json.legible_ofInt word.toInt

namespace Registers

theorem legible_slotsToJson (registers : Registers) : registers.slotsToJson.Legible :=
  .array (List.forall_mem_map.mpr fun word _ => word.legible_toJson)

theorem ofSlotsJson?_slotsToJson (registers : Registers) :
    ofSlotsJson? registers.slotsToJson = some registers := by
  obtain ⟨slots, hsize⟩ := registers
  obtain ⟨slots⟩ := slots
  match slots, hsize with
  | [r0, r1, r2, r3], _ => simp [ofSlotsJson?, slotsToJson, Json.toList?, toList, ofWords]

theorem legible_toJson (registers : Registers) : registers.toJson.Legible :=
  Json.legible_ofFields (by simp [legible_slotsToJson])

theorem ofJson?_toJson (registers : Registers) : ofJson? registers.toJson = some registers := by
  have hfields : registers.toJson.fields? ["slots"] = some [some registers.slotsToJson] :=
    Json.fields?_ofFields rfl (by decide)
  rw [ofJson?, hfields]
  exact registers.ofSlotsJson?_slotsToJson

end Registers

namespace Instruction

theorem legible_toJson (instruction : Instruction) : instruction.toJson.Legible :=
  Json.legible_ofFields (by simp [Word.legible_toJson])

theorem ofJson?_toJson (instruction : Instruction) :
    ofJson? instruction.toJson = some instruction := by
  have hfields : instruction.toJson.fields? ["opcode", "a", "b", "c"] =
      some [some instruction.opcode.toJson, some instruction.a.toJson, some instruction.b.toJson,
        some instruction.c.toJson] :=
    Json.fields?_ofFields rfl (by decide)
  rw [ofJson?, hfields]
  simp

end Instruction

namespace Program

theorem legible_toJson (program : Program) : program.toJson.Legible := by
  refine Json.legible_ofFields ?_
  simp only [List.forall_mem_singleton]
  exact .array (List.forall_mem_map.mpr fun instruction _ => instruction.legible_toJson)

theorem ofJson?_toJson (program : Program) : ofJson? program.toJson = some program := by
  have hfields : program.toJson.fields? ["instructions"] =
      some [some (.array (program.instructions.toList.map Instruction.toJson))] :=
    Json.fields?_ofFields rfl (by decide)
  have hinstructions : (program.instructions.toList.map Instruction.toJson).mapM
      Instruction.ofJson? = some program.instructions.toList := by
    rw [mapM_map_eq_some id fun instruction _ => instruction.ofJson?_toJson, List.map_id]
  rw [ofJson?, hfields]
  simp [Json.toList?, hinstructions]

end Program

theorem Status.ofJson?_toJson (status : Status) : ofJson? status.toJson = some status := by
  rw [ofJson?, toJson, Json.alternative?_ofText]
  cases status <;> rfl

namespace Machine

theorem legible_toJson (machine : Machine) : machine.toJson.Legible := by
  refine Json.legible_ofFields ?_
  simp [Registers.legible_toJson, Program.legible_toJson, Word.legible_toJson, Status.toJson,
    Json.legible_ofText, Json.legible_ofInt]

theorem ofJson?_toJson {machine : Machine} (hcycles : machine.cycles < UInt64.size) :
    ofJson? machine.toJson = some machine := by
  have hfields : machine.toJson.fields? ["regs", "program", "ip", "state", "cycles"] =
      some [some machine.registers.toJson, some machine.program.toJson, some machine.ip.toJson,
        some machine.status.toJson, some (Json.ofInt machine.cycles)] :=
    Json.fields?_ofFields rfl (by decide)
  rw [ofJson?, hfields]
  simp [Registers.ofJson?_toJson, Program.ofJson?_toJson, Status.ofJson?_toJson,
    Json.toCount?_ofInt hcycles]

theorem restore?_compact {machine : Machine} (hcycles : machine.cycles < UInt64.size) :
    Json.restore? ofJson? machine.toJson.compact = some machine :=
  Json.restore?_compact machine.legible_toJson (ofJson?_toJson hcycles)

/-! ### Runs with snapshots between the cycles -/

theorem cycles_iterate_next_le (machine : Machine) (count : Nat) :
    (next^[count] machine).cycles ≤ machine.cycles + count := by
  have hcompleted : machine.completed count ≤ count := by
    simpa [completed] using List.countP_le_length (l := List.range count)
  rw [cycles_iterate_next]
  omega

/-- The machine after `count` cycles, put away as text before each of them. -/
def iterateRestored? (machine : Machine) : Nat → Option Machine
  | 0 => some machine
  | count + 1 => do
    let before ← iterateRestored? machine count
    let restored ← Json.restore? ofJson? before.toJson.compact
    return restored.next

theorem iterateRestored?_eq {machine : Machine} {count : Nat}
    (hcycles : machine.cycles + count ≤ UInt64.size) :
    machine.iterateRestored? count = some (next^[count] machine) := by
  induction count with
  | zero => rfl
  | succ count ih =>
    have hbefore := machine.cycles_iterate_next_le count
    rw [iterateRestored?, ih (by omega), Function.iterate_succ_apply']
    simp only [Option.bind_eq_bind, Option.bind_some]
    rw [restore?_compact (by omega)]
    rfl

/-- A value is restored from the text of its snapshot. So a machine can be put away as text at any
point of a run, and at all of them: the cycles, runs and reports that follow are the same. -/
theorem snapshots_lose_nothing :
    (∀ registers : Registers,
      Json.restore? Registers.ofJson? registers.toJson.compact = some registers) ∧
    (∀ instruction : Instruction,
      Json.restore? Instruction.ofJson? instruction.toJson.compact = some instruction) ∧
    (∀ program : Program, Json.restore? Program.ofJson? program.toJson.compact = some program) ∧
    (∀ machine : Machine, machine.cycles < UInt64.size →
      Json.restore? ofJson? machine.toJson.compact = some machine) ∧
    (∀ (machine : Machine) (count : Nat), (next^[count] machine).cycles < UInt64.size →
      ∃ restored, Json.restore? ofJson? (next^[count] machine).toJson.compact = some restored ∧
        ∀ later,
          (next^[later] restored).step = (next^[count + later] machine).step ∧
          ∀ bound, (next^[later] restored).run bound = (next^[count + later] machine).run bound ∧
            (next^[later] restored).runAndReport bound =
              (next^[count + later] machine).runAndReport bound) ∧
    ∀ (machine : Machine) (count : Nat), machine.cycles + count ≤ UInt64.size →
      machine.iterateRestored? count = some (next^[count] machine) := by
  refine ⟨fun registers => ?_, fun instruction => ?_, fun program => ?_,
    fun machine hcycles => restore?_compact hcycles, fun machine count hcycles => ?_,
    fun machine count hcycles => iterateRestored?_eq hcycles⟩
  · exact Json.restore?_compact registers.legible_toJson registers.ofJson?_toJson
  · exact Json.restore?_compact instruction.legible_toJson instruction.ofJson?_toJson
  · exact Json.restore?_compact program.legible_toJson program.ofJson?_toJson
  · refine ⟨next^[count] machine, restore?_compact hcycles, fun later => ?_⟩
    rw [← Function.iterate_add_apply, Nat.add_comm later]
    exact ⟨rfl, fun bound => ⟨rfl, rfl⟩⟩

/-- A machine with extreme words that has completed more cycles than a float can count, and one that is
put away before each cycle up to its fault. -/
theorem snapshots_lose_nothing_extremes :
    let stopped : Machine :=
      { registers := .ofWords (-2147483648) 2147483647 0 (-1)
        program := ⟨#[⟨12, -2147483648, 5, 2147483647⟩]⟩
        ip := -2147483648
        status := .halted
        cycles := 18446744073709551615 }
    Json.restore? ofJson? stopped.toJson.compact = some stopped ∧
      ∃ restored, Json.restore? ofJson? (load faultAfterJump).next.toJson.compact = some restored ∧
        restored.step.outcome = .error (.register (.outOfRange 5)) ∧
        (load faultAfterJump).iterateRestored? 2 = some (next^[2] (load faultAfterJump)) := by
  intro stopped
  obtain ⟨_, _, _, hmachine, hresumed, hrestored⟩ := snapshots_lose_nothing
  have hstopped : stopped.cycles < UInt64.size := by decide
  obtain ⟨restored, hrestore, hlater⟩ := hresumed (load faultAfterJump) 1 (by decide)
  obtain ⟨hstep, _⟩ := hlater 0
  refine ⟨hmachine stopped hstopped, restored, hrestore, ?_, hrestored _ 2 (by decide)⟩
  have houtcome : (next^[1 + 0] (load faultAfterJump)).step.outcome =
      .error (.register (.outOfRange 5)) := by decide +kernel
  rw [← houtcome, ← hstep]
  rfl

example :
    (load ⟨#[⟨1, 0, -5, 2⟩]⟩).step.machine.toJson.compact =
      "\x7b\"regs\":\x7b\"slots\":[0,0,-5,0]\x7d," ++
        "\"program\":\x7b\"instructions\":[\x7b\"opcode\":1,\"a\":0,\"b\":-5,\"c\":2\x7d]\x7d," ++
        "\"ip\":1,\"state\":\"Running\",\"cycles\":1\x7d" := by
  decide +kernel

end Machine

end FourReg
