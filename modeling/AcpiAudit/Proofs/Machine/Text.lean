import AcpiAudit.Proofs.Bytes.Text
import AcpiAudit.Proofs.Machine.Cursor

set_option autoImplicit false

namespace AcpiAudit

theorem decode_ascii {bytes : Bytes} (ascii : bytes.all Ascii.isAscii = true) :
    String.fromUTF8? bytes.toByteArray = some (Ascii.text bytes) := by
  have small : bytes.AllAscii := (Bytes.all_ascii_iff bytes).mp ascii
  have encoded : bytes.toByteArray = (Ascii.text bytes).toByteArray := by
    rw [← Bytes.of_text_bytes, Bytes.of_text_ascii small]
  rw [encoded, String.fromUTF8?, dif_pos (Ascii.text bytes).isValidUTF8]
  rfl

structure TextRead (limit offset length : Nat) (field : Bytes) (answer : Except ReadError String) :
    Prop where
  succeeds : (∃ content, answer = .ok content) ↔
    offset + length ≤ limit ∧ field.AllAscii
  found (content : String) : answer = .ok content ↔
    offset + length ≤ limit ∧ field.AllAscii ∧ field.Padded content
  truncated (place needed available : Nat) :
    answer = .error (.truncated place needed available) ↔
      limit < offset + length ∧ place = offset ∧ needed = length ∧ available = limit - offset
  nonAscii (place size : Nat) : answer = .error (.nonAscii place size) ↔
    offset + length ≤ limit ∧ (∃ byte ∈ field, 0x80 ≤ byte) ∧ place = offset ∧ size = length

namespace Cursor

def fixedText (cursor : Cursor) (offset length : Nat) : Except ReadError String := do
  let field ← cursor.read offset length
  if field.all Ascii.isAscii then
    match String.fromUTF8? field.toByteArray with
    | some content => return Ascii.trimmed content
    | none => throw (.nonAscii offset length)
  else throw (.nonAscii offset length)

variable (cursor : Cursor) (offset length : Nat)

theorem fixed_text_eq : cursor.fixedText offset length = cursor.reader.text offset length := by
  rw [← text_eq, fixedText, text]
  cases cursor.read offset length with
  | error error => rfl
  | ok field =>
      by_cases ascii : field.all Ascii.isAscii = true
      · simp only [bind, Except.bind, if_pos ascii, decode_ascii ascii, Ascii.trimmed_ascii]
        rfl
      · simp only [bind, Except.bind, if_neg ascii]
        rfl

theorem text_read_of_cursor : TextRead cursor.limit offset length
    (cursor.data.slice offset length) (cursor.reader.text offset length) := by
  have limit := cursor.reader_limit
  have field (fits : offset + length ≤ cursor.limit) :
      cursor.reader.bytes.slice offset length = cursor.data.slice offset length :=
    Bytes.slice_take fits
  refine ⟨?_, ?_, ?_, ?_⟩
  · rw [Reader.text_reads_iff, limit]
    exact and_congr_right fun fits => by rw [field fits, Bytes.AllAscii]
  · intro content
    rw [Reader.text_ok_iff, limit]
    exact and_congr_right fun fits => by rw [field fits]
  · intro place needed available
    rw [Reader.text_truncated_iff, limit]
  · intro place size
    rw [Reader.text_non_ascii_iff, limit]
    exact and_congr_right fun fits => by rw [field fits]

end Cursor

theorem text_reads_trim_their_padding (cursor : Cursor) (offset length : Nat) :
    let field := cursor.data.slice offset length
    let answer := cursor.fixedText offset length
    answer = cursor.reader.text offset length ∧
      TextRead cursor.limit offset length field answer ∧
      (∀ one other : String, field.Padded one → field.Padded other → one = other) ∧
      (∀ error, cursor.read offset length = .error error → answer = .error error) ∧
      ∀ bytes : Bytes, bytes.all Ascii.isAscii = true →
        String.fromUTF8? bytes.toByteArray = some (Ascii.text bytes) := by
  intro field answer
  have same : answer = cursor.reader.text offset length := cursor.fixed_text_eq offset length
  refine ⟨same, ?_, fun _ _ => Bytes.padded_unique, ?_, fun _ => decode_ascii⟩
  · rw [same]
    exact cursor.text_read_of_cursor offset length
  · intro error failed
    rw [cursor.read_eq] at failed
    rw [same, Reader.text, failed]
    rfl

-- A name with padding, a field whose text has a NUL at its front or inside, an empty one, one that
-- is not ASCII, and one that is cut off behind such a byte.
theorem text_reads_trim_their_padding_name_and_nuls :
    let cursor := Cursor.upTo 12
      [0x4F, 0x45, 0x4D, 0, 0, 0, 0x41, 0, 0x42, 0, 0xFF, 0x58, 0x59] (by decide)
    cursor.fixedText 0 6 = .ok "OEM" ∧ ¬ (cursor.data.slice 0 6).Padded "OEM\x00" ∧
      cursor.fixedText 5 5 = .ok "\x00A\x00B" ∧ cursor.fixedText 3 3 = .ok "" ∧
      cursor.fixedText 12 0 = .ok "" ∧
      cursor.fixedText 9 2 = .error (.nonAscii 9 2) ∧
      cursor.read 10 3 = .error (.truncated 10 3 2) ∧
      cursor.fixedText 10 3 = .error (.truncated 10 3 2) ∧
      [0x4F, 0].all Ascii.isAscii = true ∧
      String.fromUTF8? (List.toByteArray [0x4F, 0]) = some "O\x00" := by
  intro cursor
  have look (offset length : Nat) := text_reads_trim_their_padding cursor offset length
  have padded : (cursor.data.slice 0 6).Padded "OEM" := ⟨⟨3, rfl⟩, by decide⟩
  have name : cursor.fixedText 0 6 = .ok "OEM" :=
    ((look 0 6).2.1.found "OEM").mpr ⟨by decide, by decide, padded⟩
  have bare : ¬ (cursor.data.slice 0 6).Padded "OEM\x00" := by
    intro longer
    exact absurd ((look 0 6).2.2.1 "OEM" "OEM\x00" padded longer) (by decide)
  have inner : cursor.fixedText 5 5 = .ok "\x00A\x00B" :=
    ((look 5 5).2.1.found "\x00A\x00B").mpr ⟨by decide, by decide, ⟨1, rfl⟩, by decide⟩
  have blank : cursor.fixedText 3 3 = .ok "" :=
    ((look 3 3).2.1.found "").mpr ⟨by decide, by decide, ⟨3, rfl⟩, by decide⟩
  have empty : cursor.fixedText 12 0 = .ok "" :=
    ((look 12 0).2.1.found "").mpr ⟨by decide, by decide, ⟨0, rfl⟩, by decide⟩
  have mixed : cursor.fixedText 9 2 = .error (.nonAscii 9 2) :=
    ((look 9 2).2.1.nonAscii 9 2).mpr ⟨by decide, ⟨0xFF, by decide, by decide⟩, rfl, rfl⟩
  have short : cursor.read 10 3 = .error (.truncated 10 3 2) := rfl
  obtain ⟨-, -, -, unread, decodes⟩ := look 10 3
  exact ⟨name, bare, inner, blank, empty, mixed, short, unread _ short, by decide,
    decodes [0x4F, 0] (by decide)⟩

end AcpiAudit
