import XrpcServer.Text.Decimal

/-!
# Messages that delimit themselves

A message is a start line, header lines, one empty line and a body whose length its head tells.
Whatever follows a message on a connection, no other message starts with the same bytes: a reader
knows from the bytes themselves where it ends.
-/

namespace XrpcServer.Http

open XrpcServer.Text

/-- The end of a line. -/
def crlf : Bytes := [13, 10]

/-- The text of one line: neither of the bytes of a line end occurs in it. -/
def IsLine (line : Bytes) : Prop := 13 ∉ line ∧ 10 ∉ line

instance (line : Bytes) : Decidable (IsLine line) := inferInstanceAs (Decidable (_ ∧ _))

/-- An ASCII capital as its small letter. -/
def lower (b : UInt8) : UInt8 := if 65 ≤ b ∧ b ≤ 90 then b + 32 else b

/-- The name of a header line, without regard to case. -/
def fieldName (line : Bytes) : Bytes := (line.takeWhile (· ≠ 58)).map lower

/-- The value of a header line. -/
def fieldValue (line : Bytes) : Bytes := ((line.dropWhile (· ≠ 58)).drop 1).dropWhile isSpace

/-- The length of the body that the header lines announce. -/
def contentLength (fields : List Bytes) : Option ℕ :=
  (fields.find? fun line => fieldName line = str "content-length").map fun line =>
    digitsValue (fieldValue line)

/-- A message; without an announced length there is no body. -/
@[ext] structure Message where
  startLine : Bytes
  fields : List Bytes
  body : Bytes
  startLine_isLine : IsLine startLine
  fields_isLine : ∀ line ∈ fields, IsLine line ∧ line ≠ []
  body_length : body.length = (contentLength fields).getD 0

/-- The header lines, each with its line end. -/
def fieldsText (fields : List Bytes) : Bytes := fields.flatMap fun line => line ++ crlf

/-- The bytes of a message. -/
def Message.text (m : Message) : Bytes :=
  m.startLine ++ crlf ++ fieldsText m.fields ++ crlf ++ m.body

/-- The first header line comes first. -/
theorem fieldsText_cons (line : Bytes) (fields : List Bytes) :
    fieldsText (line :: fields) = line ++ crlf ++ fieldsText fields := List.flatMap_cons

/-- The name of a header line stands before its first colon. -/
theorem fieldName_append {name : Bytes} (hname : 58 ∉ name) (value : Bytes) :
    fieldName (name ++ 58 :: value) = name.map lower := by
  have htake : (name ++ 58 :: value).takeWhile (· ≠ 58) = name := by
    rw [List.takeWhile_append_of_pos, List.takeWhile_cons_of_neg (by decide), List.append_nil]
    intro b hb
    simpa using fun heq : b = 58 => hname (heq ▸ hb)
  rw [fieldName, htake]

/-- The value of a header line stands behind it. -/
theorem fieldValue_append {name : Bytes} (hname : 58 ∉ name) (value : Bytes) :
    fieldValue (name ++ 58 :: value) = value.dropWhile isSpace := by
  have hdrop : (name ++ 58 :: value).dropWhile (· ≠ 58) = 58 :: value := by
    rw [List.dropWhile_append_of_pos, List.dropWhile_cons_of_neg (by decide)]
    intro b hb
    simpa using fun heq : b = 58 => hname (heq ▸ hb)
  rw [fieldValue, hdrop, List.drop_one, List.tail_cons]

/-- What is left of a line is a line. -/
theorem IsLine.tail {b : UInt8} {line : Bytes} (h : IsLine (b :: line)) : IsLine line :=
  ⟨fun hmem => h.1 (List.mem_cons_of_mem _ hmem), fun hmem => h.2 (List.mem_cons_of_mem _ hmem)⟩

/-- A line ends at the first line end. -/
theorem line_append_injective {line line' rest rest' : Bytes} (hline : IsLine line) (hline' : IsLine line')
    (h : line ++ (crlf ++ rest) = line' ++ (crlf ++ rest')) : line = line' ∧ rest = rest' := by
  induction line generalizing line' with
  | nil =>
    cases line' with
    | nil => exact ⟨rfl, by simpa using h⟩
    | cons b line' =>
      obtain ⟨rfl, -⟩ : 13 = b ∧ _ := by simpa [crlf] using h
      exact absurd List.mem_cons_self hline'.1
  | cons a line ih =>
    cases line' with
    | nil =>
      obtain ⟨rfl, -⟩ : a = 13 ∧ _ := by simpa [crlf] using h
      exact absurd List.mem_cons_self hline.1
    | cons b line' =>
      obtain ⟨rfl, hrest⟩ := List.cons.inj h
      obtain ⟨rfl, rfl⟩ := ih hline.tail hline'.tail hrest
      exact ⟨rfl, rfl⟩

/-- Header lines end at the first empty line. -/
theorem fieldsText_append_injective {fields fields' : List Bytes} {rest rest' : Bytes}
    (hfields : ∀ line ∈ fields, IsLine line ∧ line ≠ [])
    (hfields' : ∀ line ∈ fields', IsLine line ∧ line ≠ [])
    (h : fieldsText fields ++ (crlf ++ rest) = fieldsText fields' ++ (crlf ++ rest')) :
    fields = fields' ∧ rest = rest' := by
  have hempty : IsLine [] := by decide
  induction fields generalizing fields' with
  | nil =>
    cases fields' with
    | nil => exact ⟨rfl, by simpa [fieldsText] using h⟩
    | cons line' fields' =>
      obtain ⟨hline', hne'⟩ := hfields' line' List.mem_cons_self
      rw [fieldsText_cons, List.append_assoc, List.append_assoc] at h
      exact absurd (line_append_injective hempty hline' h).1.symm hne'
  | cons line fields ih =>
    obtain ⟨hline, hne⟩ := hfields line List.mem_cons_self
    rw [fieldsText_cons, List.append_assoc, List.append_assoc] at h
    cases fields' with
    | nil => exact absurd (line_append_injective hline hempty h).1 hne
    | cons line' fields' =>
      obtain ⟨hline', -⟩ := hfields' line' List.mem_cons_self
      rw [fieldsText_cons, List.append_assoc, List.append_assoc] at h
      obtain ⟨rfl, hrest⟩ := line_append_injective hline hline' h
      obtain ⟨rfl, rfl⟩ := ih (fun l hl => hfields l (List.mem_cons_of_mem _ hl))
        (fun l hl => hfields' l (List.mem_cons_of_mem _ hl)) hrest
      exact ⟨rfl, rfl⟩

/-- A message ends where its own bytes say, whatever follows. -/
theorem Message.text_append_injective {m m' : Message} {rest rest' : Bytes}
    (h : m.text ++ rest = m'.text ++ rest') : m = m' ∧ rest = rest' := by
  simp only [Message.text, List.append_assoc] at h
  obtain ⟨hstart, hafter⟩ := line_append_injective m.startLine_isLine m'.startLine_isLine h
  obtain ⟨hfields, hbodies⟩ := fieldsText_append_injective m.fields_isLine m'.fields_isLine hafter
  -- equal header lines announce equal lengths
  have hlength : m.body.length = m'.body.length := by rw [m.body_length, m'.body_length, hfields]
  obtain ⟨hbody, hrest⟩ := List.append_inj hbodies hlength
  exact ⟨Message.ext hstart hfields hbody, hrest⟩

/-- A message followed by something is not a message. -/
theorem Message.text_append_ne {m m' : Message} {rest : Bytes} (hrest : rest ≠ []) :
    m.text ++ rest ≠ m'.text := by
  intro h
  rw [← List.append_nil m'.text] at h
  exact hrest (Message.text_append_injective h).2

end XrpcServer.Http
