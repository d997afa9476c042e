import XrpcServer.Http.Connection
import XrpcServer.Http.Message

/-!
# How the responses are framed

Three of the four responses lack the line end of their empty line, and the fourth has one more
line end than its length announces. Each is one line end away from a message, so none of them is
a message.
-/

namespace XrpcServer.Http

open XrpcServer.Text

/-- The start line of a response. -/
def IsStatusLine (line : Bytes) : Prop := str "HTTP/" <+: line

/-- What is written is one response, and the body of an answer is the string to be answered. -/
def CompleteResponse (response : Response) : Prop :=
  ∃ m : Message, IsStatusLine m.startLine ∧ response.text = m.text ∧
    ∀ rsp, response = .answer rsp → m.body = rsp

section Answer

variable (rsp : Bytes)

/-- The header line that announces the length of an answer. -/
def lengthField : Bytes := str "Content-Length: " ++ decimalText rsp.length

/-- The header lines of an answer. -/
def answerFields : List Bytes :=
  [str "Access-Control-Allow-Origin: *", str "Content-Type: application/json", lengthField rsp]

/-- The length of an answer is announced under its name. -/
theorem lengthField_eq : lengthField rsp = str "Content-Length" ++ 58 :: (32 :: decimalText rsp.length) := by
  have hname : str "Content-Length: " = str "Content-Length" ++ [58, 32] := by decide
  rw [lengthField, hname, List.append_assoc]
  rfl

/-- The header lines are lines. -/
theorem isLine_answerFields : ∀ line ∈ answerFields rsp, IsLine line ∧ line ≠ [] := by
  obtain ⟨-, hdigits, -⟩ := digits_decimalText rsp.length
  have hnumeral : IsLine (decimalText rsp.length) :=
    ⟨fun hmem => absurd (hdigits 13 hmem) (by decide), fun hmem => absurd (hdigits 10 hmem) (by decide)⟩
  have hname : IsLine (str "Content-Length: ") := by decide
  have hlength : IsLine (lengthField rsp) := by
    simp only [IsLine, lengthField, List.mem_append, not_or]
    exact ⟨⟨hname.1, hnumeral.1⟩, hname.2, hnumeral.2⟩
  simp only [answerFields, List.forall_mem_cons]
  exact ⟨by decide, by decide, ⟨hlength, by simp [lengthField_eq]⟩, by simp⟩

/-- The announced length is the length of the answer. -/
theorem contentLength_answerFields : contentLength (answerFields rsp) = some rsp.length := by
  have horigin : fieldName (str "Access-Control-Allow-Origin: *") ≠ str "content-length" := by decide
  have htype : fieldName (str "Content-Type: application/json") ≠ str "content-length" := by decide
  have hname : fieldName (lengthField rsp) = str "content-length" := by
    rw [lengthField_eq, fieldName_append (by decide)]
    decide
  obtain ⟨hne, hdigits, hvalue⟩ := digits_decimalText rsp.length
  have hskip : fieldValue (lengthField rsp) = decimalText rsp.length := by
    obtain ⟨d, rest, hcons⟩ := List.exists_cons_of_ne_nil hne
    have hd : isDigit d := hdigits d (by simp [hcons])
    rw [lengthField_eq, fieldValue_append (by decide), List.dropWhile_cons_of_pos (by decide), hcons,
      List.dropWhile_cons_of_neg (by simp [isSpace_of_isDigit hd])]
  simp [contentLength, answerFields, horigin, htype, hname, hskip, hvalue]

/-- The message an answer is meant to be. -/
def answerMessage : Message where
  startLine := str "HTTP/1.1 200 OK"
  fields := answerFields rsp
  body := rsp
  startLine_isLine := by decide
  fields_isLine := isLine_answerFields rsp
  body_length := by rw [contentLength_answerFields, Option.getD_some]

/-- An answer is followed by one more line end. -/
theorem text_answer (hne : rsp ≠ []) : (Response.answer rsp).text = (answerMessage rsp).text ++ crlf := by
  have hstatus : str "HTTP/1.1 200 OK\r\n" = str "HTTP/1.1 200 OK" ++ crlf := by decide
  have horigin : str "Access-Control-Allow-Origin: *\r\n" = str "Access-Control-Allow-Origin: *" ++ crlf := by
    decide
  have htype : str "Content-Type: application/json" = str "Content-Type: " ++ str "application/json" := by
    decide
  have hline : str "\r\n" = crlf := by decide
  simp only [Response.text, if_neg hne, Message.text, answerMessage, answerFields, lengthField, fieldsText,
    List.flatMap_cons, List.flatMap_nil, hstatus, horigin, htype, hline, List.append_assoc, List.nil_append]

end Answer

/-- The head of a response without a body. -/
def headMessage (startLine : Bytes) (fields : List Bytes) (hstart : IsLine startLine)
    (hfields : ∀ line ∈ fields, IsLine line ∧ line ≠ []) (hlength : contentLength fields = none) : Message where
  startLine := startLine
  fields := fields
  body := []
  startLine_isLine := hstart
  fields_isLine := hfields
  body_length := by rw [hlength, Option.getD_none, List.length_nil]

/-- The message the response to OPTIONS is meant to be. -/
def optionsMessage : Message :=
  headMessage (str "HTTP/1.1 200 OK")
    [str "Access-Control-Allow-Origin:*", str "Access-Control-Request-Method:POST",
      str "Access-Control-Allow-Headers:Origin,X-Requested-With,Content-Type,Accept",
      str "Access-Control-Request-Headers:Content-type"] (by decide) (by decide) (by decide)

/-- The message of a status line alone. -/
def statusMessage (startLine : Bytes) (hstart : IsLine startLine) : Message :=
  headMessage startLine [] hstart (by simp) rfl

/-- The other responses end before their empty line. -/
theorem text_append_crlf {response : Response} (hshort : ∀ rsp, response = .answer rsp → rsp = []) :
    ∃ m : Message, response.text ++ crlf = m.text := by
  cases response with
  | options => exact ⟨optionsMessage, by decide +kernel⟩
  | forbidden => exact ⟨statusMessage (str "HTTP/1.0 403 Forbidden") (by decide), by decide⟩
  | answer rsp =>
    rw [hshort rsp rfl]
    exact ⟨statusMessage (str "HTTP/1.1 201 Error") (by decide), by decide⟩

/-- No response is complete. -/
theorem not_completeResponse (response : Response) : ¬CompleteResponse response := by
  intro hcomplete
  obtain ⟨m, -, htext, -⟩ := hcomplete
  have hcrlf : crlf ≠ [] := by decide
  by_cases hshort : ∀ rsp, response = .answer rsp → rsp = []
  · obtain ⟨m', htext'⟩ := text_append_crlf hshort
    rw [htext] at htext'
    exact Message.text_append_ne hcrlf htext'
  · simp only [not_forall] at hshort
    obtain ⟨rsp, rfl, hne⟩ := hshort
    rw [text_answer rsp hne] at htext
    exact Message.text_append_ne hcrlf htext

/-- Two bytes follow the answer to a request. -/
theorem answer_not_complete : ¬CompleteResponse (.answer (str "\x7b\x7d")) := by
  intro hcomplete
  obtain ⟨m, -, htext, -⟩ := hcomplete
  rw [text_answer _ (by decide)] at htext
  exact Message.text_append_ne (by decide) htext

end XrpcServer.Http
