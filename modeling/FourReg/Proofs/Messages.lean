import FourReg.Proofs.BadFields

/-!
# Messages about fields

A message about a field is one line without controls, and tells which field it is about, whatever the
field holds. The name of the field stands in front of its quotation and the quotation is read back, so
no other error has its message.
-/

namespace FourReg

namespace LineError

/-- The message of an error, with the characters that satisfy `hidden` written by code point. -/
def messageHiding (hidden : Char → Bool) : LineError → String
  | fieldCount found => (fieldCount found).message
  | invalidField name field =>
    "invalid " ++ name.text ++ " field: " ++ String.ofList (Quoted.encode hidden field)

theorem message_eq (cause : LineError) : cause.message = cause.messageHiding Quoted.isHidden := by
  cases cause <;> rfl

variable {hidden : Char → Bool} {name other : FieldName} {field otherField : List Char}

theorem toList_messageHiding : ((invalidField name field).messageHiding hidden).toList =
    "invalid ".toList ++ (name.text.toList ++ (" field: ".toList ++ Quoted.encode hidden field)) := by
  simp only [messageHiding, String.toList_append, String.toList_ofList, List.append_assoc]

theorem not_isControl_of_mem_messageHiding :
    ∀ c ∈ ((invalidField name field).messageHiding hidden).toList, Quoted.isControl c = false := by
  rw [toList_messageHiding]
  simp only [List.forall_mem_append]
  refine ⟨by simp [Quoted.isControl], ?_, by simp [Quoted.isControl],
    Quoted.not_isControl_of_mem_encode hidden field⟩
  cases name <;> simp [FieldName.text, Quoted.isControl]

theorem messageHiding_fieldCount_ne (found : Nat) :
    (fieldCount found).messageHiding hidden ≠ (invalidField name field).messageHiding hidden := by
  intro hmessage
  have hcount : ((fieldCount found).messageHiding hidden).toList =
      "expected 4 fields, found ".toList ++ (Numeral.text found).toList := String.toList_append
  have hlist := congrArg String.toList hmessage
  rw [hcount, toList_messageHiding] at hlist
  simp at hlist

theorem name_eq_of_append {rest otherRest : List Char}
    (happend : name.text.toList ++ (" field: ".toList ++ rest) =
      other.text.toList ++ (" field: ".toList ++ otherRest)) : name = other ∧ rest = otherRest := by
  cases name <;> cases other <;> simp_all [FieldName.text]

theorem messageHiding_inj
    (hmessage : (invalidField name field).messageHiding hidden =
      (invalidField other otherField).messageHiding hidden) :
    name = other ∧ field = otherField := by
  have hlist := congrArg String.toList hmessage
  rw [toList_messageHiding, toList_messageHiding] at hlist
  obtain ⟨hname, hquoted⟩ := name_eq_of_append (List.append_cancel_left hlist)
  refine ⟨hname, Option.some.inj ?_⟩
  rw [← Quoted.decode?_encode hidden field, hquoted, Quoted.decode?_encode]

end LineError

namespace Instruction

theorem firstBad_of_ofLine {line field : List Char} {name : FieldName}
    (hread : ofLine line = .error (.invalidField name field)) : FirstBad (fields line) name field := by
  by_cases hlength : (fields line).length = 4
  · obtain ⟨opcode, a, b, c, hfields⟩ := List.length_eq_four.mp hlength
    obtain ⟨_, _, hbad, hcause⟩ := (ofLine_eq_error_iff hfields).mp hread
    cases hcause
    rwa [hfields]
  · cases (ofLine_of_length_ne hlength).symm.trans hread

/-- A line that is refused for one of its fields. The field is the first of the four that is not what
its place asks for. Whichever characters are written by code point, its name and its quotation make up
the message, which has no control in it and so is one line; the field is read back from the quotation,
and no other error of any line has this message. -/
theorem message_identifies_field {line field : List Char} {name : FieldName}
    (hread : ofLine line = .error (.invalidField name field)) :
    FirstBad (fields line) name field ∧
    (LineError.invalidField name field).message =
      (LineError.invalidField name field).messageHiding Quoted.isHidden ∧
    ∀ hidden : Char → Bool,
      let quoted := Quoted.encode hidden field
      let message := (LineError.invalidField name field).messageHiding hidden
      message = "invalid " ++ name.text ++ " field: " ++ String.ofList quoted ∧
      (∀ c ∈ quoted, Quoted.isControl c = false) ∧
      (∀ c ∈ message.toList, Quoted.isControl c = false) ∧
      Quoted.decode? quoted = some field ∧
      ∀ cause : LineError, cause.messageHiding hidden = message → cause = .invalidField name field := by
  refine ⟨firstBad_of_ofLine hread, LineError.message_eq _, fun hidden => ?_⟩
  refine ⟨rfl, Quoted.not_isControl_of_mem_encode hidden field,
    LineError.not_isControl_of_mem_messageHiding, Quoted.decode?_encode hidden field, ?_⟩
  intro cause hmessage
  cases cause with
  | fieldCount found => exact absurd hmessage (LineError.messageHiding_fieldCount_ne found)
  | invalidField other otherField =>
    obtain ⟨hname, hfield⟩ := LineError.messageHiding_inj hmessage
    rw [hname, hfield]

/-- A field that holds a quote, what looks like an escape, an escape character and an accent. -/
theorem message_identifies_field_hostile :
    let field := "\"\\u\x7b41\x7d\x1bé\u0301".toList
    ofLine ("addi 1 ".toList ++ field ++ " x".toList) = .error (.invalidField .b field) ∧
      (LineError.invalidField .b field).message =
        "invalid B field: \"\\\"\\\\u\x7b41\x7d\\u\x7b1b\x7dé\\u\x7b301\x7d\"" ∧
      Quoted.decode? (Quoted.encode Quoted.isHidden field) = some field := by
  intro field
  have hread : ofLine ("addi 1 ".toList ++ field ++ " x".toList) = .error (.invalidField .b field) := by
    decide +kernel
  obtain ⟨_, hmessage, hany⟩ := message_identifies_field hread
  obtain ⟨hquoted, _, _, hdecode, _⟩ := hany Quoted.isHidden
  have hencode : Quoted.encode Quoted.isHidden field =
      "\"\\\"\\\\u\x7b41\x7d\\u\x7b1b\x7dé\\u\x7b301\x7d\"".toList := by decide +kernel
  refine ⟨hread, ?_, hdecode⟩
  rw [hmessage, hquoted, hencode]
  rfl

end Instruction

end FourReg
