import FourReg.Proofs.Snapshots

/-!
# Reports as documents

A report is restored from its indented text, whatever the message of its fault is made of. What is
known of the other snapshots carries over: the document of a report is legible, and its four fields are
found by their names. The fault is the one value with two forms, null and a string. An empty message is
still a string, so it is told from the absence of a fault.
-/

namespace FourReg

theorem Json.restore?_indented {α : Type} {ofJson? : Json → Option α} {document : Json} {value : α}
    (hlegible : Legible document) (hvalue : ofJson? document = some value) :
    restore? ofJson? document.indented = some value := by
  rw [restore?, hlegible.read?_indented, Option.bind_some, hvalue]

theorem Json.toText?_ofText (text : String) : (ofText text).toText? = some text := by
  rw [ofText, toText?, decodeString?_encodeString, Option.map_some, String.ofList_toList]

namespace Report

theorem legible_faultToJson (fault : Option String) : (faultToJson fault).Legible := by
  cases fault with
  | none => exact .null
  | some message => exact Json.legible_ofText message

theorem faultOfJson?_faultToJson (fault : Option String) :
    faultOfJson? (faultToJson fault) = some fault := by
  cases fault with
  | none => rfl
  | some message => exact congrArg (Option.map some) (Json.toText?_ofText message)

theorem legible_toJson (report : Report) : report.toJson.Legible := by
  refine Json.legible_ofFields ?_
  simp [Status.toJson, Json.legible_ofText, Json.legible_ofInt, Registers.legible_slotsToJson,
    legible_faultToJson]

theorem ofJson?_toJson {report : Report} (hcycles : report.cycles < UInt64.size) :
    ofJson? report.toJson = some report := by
  have hfields : report.toJson.fields? ["state", "cycles", "registers", "fault"] =
      some [some report.status.toJson, some (Json.ofInt report.cycles),
        some report.registers.slotsToJson, some (faultToJson report.fault)] :=
    Json.fields?_ofFields rfl (by decide)
  rw [ofJson?, hfields]
  simp [Status.ofJson?_toJson, Json.toCount?_ofInt hcycles, Registers.ofSlotsJson?_slotsToJson,
    faultOfJson?_faultToJson]

theorem restore?_jsonText {report : Report} (hcycles : report.cycles < UInt64.size) :
    Json.restore? ofJson? report.jsonText = some report :=
  Json.restore?_indented report.legible_toJson (ofJson?_toJson hcycles)

theorem jsonText_inj {report other : Report} (hreport : report.cycles < UInt64.size)
    (hother : other.cycles < UInt64.size) : report.jsonText = other.jsonText ↔ report = other := by
  constructor
  · intro htext
    have hrestore := restore?_jsonText hreport
    rw [htext, restore?_jsonText hother] at hrestore
    exact (Option.some.inj hrestore).symm
  · exact congrArg jsonText

/-- A report is restored from its text. So different reports have different texts, among them one
without a fault and one with a fault that has an empty message. -/
theorem jsonText_loses_nothing :
    (∀ report : Report, report.cycles < UInt64.size →
      Json.restore? ofJson? report.jsonText = some report) ∧
    ∀ report other : Report, report.cycles < UInt64.size → other.cycles < UInt64.size →
      (report.jsonText = other.jsonText ↔ report = other) ∧
      (report.fault = none → other.fault = some "" → report.jsonText ≠ other.jsonText) := by
  refine ⟨fun report => restore?_jsonText, fun report other hreport hother =>
    ⟨jsonText_inj hreport hother, fun hnone hempty htext => ?_⟩⟩
  rw [jsonText_inj hreport hother] at htext
  rw [htext, hempty] at hnone
  cases hnone

/-- A report with extreme numbers and a message of quotes, backslashes, controls, the text of an escape
and characters up to the last, and the same report without a fault and with an empty message. -/
theorem jsonText_loses_nothing_extremes :
    let report : Report :=
      { status := .faulted
        cycles := 18446744073709551615
        registers := .ofWords (-2147483648) 2147483647 0 (-1)
        fault := some (String.ofList
          ['"', '\\', '\x00', '\n', '\x1F', '\x7F', '\\', 'u', '0', '0', '4', '1', 'é', '😀',
            Char.ofNat 0x10FFFF]) }
    report.cycles < UInt64.size ∧ Json.restore? ofJson? report.jsonText = some report ∧
      { report with fault := none }.jsonText ≠ { report with fault := some "" }.jsonText := by
  intro report
  have hcycles : report.cycles < UInt64.size := by decide
  obtain ⟨hrestore, hdifferent⟩ := jsonText_loses_nothing
  obtain ⟨_, hempty⟩ := hdifferent { report with fault := none } { report with fault := some "" }
    hcycles hcycles
  exact ⟨hcycles, hrestore report hcycles, hempty rfl rfl⟩

example :
    Report.jsonText ⟨.halted, 1, .ofWords 0 (-5) 0 0, some "\"\n"⟩ =
      "\x7b\n  \"state\": \"Halted\",\n  \"cycles\": 1,\n  \"registers\": [\n    0,\n    -5,\n" ++
        "    0,\n    0\n  ],\n  \"fault\": \"\\\"\\n\"\n\x7d" := by
  decide +kernel

end Report

end FourReg
