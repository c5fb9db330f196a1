import AcpiAudit.Proofs.Bytes.Writing
import AcpiAudit.Proofs.Text.Hex
import AcpiAudit.Table.Guid

set_option autoImplicit false

namespace AcpiAudit

namespace Guid

open Bytes

structure Fields where
  first : UInt32
  second : UInt16
  third : UInt16
  last : Block 8
deriving DecidableEq

def Fields.guid (fields : Fields) : Guid :=
  ofFields fields.first.toNat fields.second.toNat fields.third.toNat fields.last

theorem last_length (guid : Guid) : guid.last.length = 8 :=
  length_slice_of_fits (Nat.le_of_eq guid.bytes.property.symm)

def toFields (guid : Guid) : Fields :=
  ⟨.ofNat guid.first, .ofNat guid.second, .ofNat guid.third, ⟨guid.last, guid.last_length⟩⟩

section Fields

variable {first second third : Nat} (last : Block 8)

theorem first_of_fields (room : first < 256 ^ 4) :
    (ofFields first second third last).first = first := by
  have placed := number_of_number room [] (ofNumber 2 second ++ (ofNumber 2 third ++ last.val))
  rw [List.nil_append, List.length_nil] at placed
  rw [Guid.first, ofFields]
  simpa only [List.append_assoc] using placed

theorem second_of_fields (room : second < 256 ^ 2) :
    (ofFields first second third last).second = second := by
  have placed := number_of_number room (ofNumber 4 first) (ofNumber 2 third ++ last.val)
  rw [length_ofNumber] at placed
  rw [Guid.second, ofFields]
  simpa only [List.append_assoc] using placed

theorem third_of_fields (room : third < 256 ^ 2) :
    (ofFields first second third last).third = third := by
  have placed := number_of_number room (ofNumber 4 first ++ ofNumber 2 second) last.val
  rw [List.length_append, length_ofNumber, length_ofNumber] at placed
  rw [Guid.third, ofFields]
  simpa only [List.append_assoc] using placed

theorem last_of_fields : (ofFields first second third last).last = last.val := by
  have front : (ofNumber 4 first ++ ofNumber 2 second ++ ofNumber 2 third).length = 8 := by
    simp only [List.length_append, length_ofNumber]
  rw [Guid.last, ofFields, slice, List.drop_left' front, List.take_of_length_le]
  exact Nat.le_of_eq last.property

end Fields

theorem number_fits (guid : Guid) :
    guid.first < 2 ^ 32 ∧ guid.second < 2 ^ 16 ∧ guid.third < 2 ^ 16 :=
  ⟨number_lt guid.bytes.val 0 4, number_lt guid.bytes.val 4 2, number_lt guid.bytes.val 6 2⟩

theorem guid_of_fields (guid : Guid) :
    ofFields guid.first guid.second guid.third ⟨guid.last, guid.last_length⟩ = guid := by
  obtain ⟨⟨bytes, size⟩⟩ := guid
  apply congrArg Guid.mk
  apply Subtype.ext
  change ofNumber 4 (number bytes 0 4) ++ ofNumber 2 (number bytes 4 2) ++
    ofNumber 2 (number bytes 6 2) ++ slice bytes 8 8 = bytes
  rw [of_number_number (by omega), of_number_number (by omega), of_number_number (by omega),
    slice_append, slice_append, slice_append, slice, List.drop_zero,
    List.take_of_length_le (Nat.le_of_eq size)]

theorem guid_to_fields (guid : Guid) : guid.toFields.guid = guid := by
  obtain ⟨first, second, third⟩ := guid.number_fits
  rw [Fields.guid, toFields, UInt32.toNat_ofNat_of_lt' first, UInt16.toNat_ofNat_of_lt' second,
    UInt16.toNat_ofNat_of_lt' third, guid_of_fields]

theorem to_fields_guid (fields : Fields) : fields.guid.toFields = fields := by
  obtain ⟨first, second, third, last⟩ := fields
  have one : (ofFields first.toNat second.toNat third.toNat last).first = first.toNat :=
    first_of_fields last first.toNat_lt
  have two : (ofFields first.toNat second.toNat third.toNat last).second = second.toNat :=
    second_of_fields last second.toNat_lt
  have three : (ofFields first.toNat second.toNat third.toNat last).third = third.toNat :=
    third_of_fields last third.toNat_lt
  simp only [Fields.guid, toFields, one, two, three, last_of_fields, UInt32.ofNat_toNat,
    UInt16.ofNat_toNat]

section Text

def groups (guid : Guid) : List (List Char) :=
  [Hex.upper 8 guid.first, Hex.upper 4 guid.second, Hex.upper 4 guid.third,
    plain (guid.last.take 2), plain (guid.last.drop 2)]

theorem text_groups (guid : Guid) : guid.text.toList = ['-'].intercalate guid.groups := by
  simp [text, groups, List.intercalate, List.intersperse]

theorem length_plain (bytes : Bytes) : (plain bytes).length = 2 * bytes.length :=
  Hex.length_bytes bytes

theorem plain_split (bytes : Bytes) (count : Nat) :
    plain (bytes.take count) ++ plain (bytes.drop count) = plain bytes := by
  rw [plain, plain, ← List.flatMap_append, List.take_append_drop, plain]

theorem length_groups (guid : Guid) : guid.groups.map List.length = [8, 4, 4, 4, 12] := by
  simp only [groups, List.map_cons, List.map_nil, Hex.length_upper, length_plain,
    List.length_take, List.length_drop, guid.last_length]
  rfl

theorem length_text (guid : Guid) : guid.text.length = 36 := by
  rw [← String.length_toList, text, String.toList_ofList]
  simp only [List.length_append, Hex.length_upper, length_plain, List.length_take,
    List.length_drop, guid.last_length, List.length_singleton]
  rfl

theorem digit_of_group {guid : Guid} {group : List Char} (member : group ∈ guid.groups)
    {character : Char} (inside : character ∈ group) :
    ∃ digit < 16, character = Hex.upperDigit digit := by
  simp only [groups, List.mem_cons, List.not_mem_nil, or_false] at member
  rcases member with rfl | rfl | rfl | rfl | rfl
  · exact Hex.digit_of_upper inside
  · exact Hex.digit_of_upper inside
  · exact Hex.digit_of_upper inside
  · obtain ⟨byte, -, inside⟩ := List.mem_flatMap.mp inside
    exact Hex.digit_of_upper inside
  · obtain ⟨byte, -, inside⟩ := List.mem_flatMap.mp inside
    exact Hex.digit_of_upper inside

theorem hyphen_not_mem {guid : Guid} {group : List Char} (member : group ∈ guid.groups) :
    '-' ∉ group := by
  have digits : ∀ digit < 16, Hex.upperDigit digit ≠ '-' := by decide
  intro hyphen
  obtain ⟨digit, small, same⟩ := digit_of_group member hyphen
  exact digits digit small same.symm

theorem split_text (guid : Guid) : guid.text.toList.splitOn '-' = guid.groups := by
  have some_group : guid.groups ≠ [] := List.cons_ne_nil _ _
  rw [text_groups, List.splitOn_intercalate '-' (fun _ => hyphen_not_mem) some_group]

def ofGroups? : List (List Char) → Option Guid
  | [first, second, third, front, back] =>
    if [first, second, third, front, back].map List.length = [8, 4, 4, 4, 12] then do
      let first ← Hex.number? first
      let second ← Hex.number? second
      let third ← Hex.number? third
      let last ← Hex.bytes? (front ++ back)
      if size : last.length = 8 then some (ofFields first second third ⟨last, size⟩) else none
    else none
  | _ => none

def ofText? (text : String) : Option Guid := ofGroups? (text.toList.splitOn '-')

theorem of_groups (guid : Guid) : ofGroups? guid.groups = some guid := by
  obtain ⟨first, second, third⟩ := guid.number_fits
  have last : Hex.bytes? (plain (guid.last.take 2) ++ plain (guid.last.drop 2)) =
      some guid.last := by
    rw [plain_split, Hex.bytes_iff]
    rfl
  have widths := guid.length_groups
  rw [groups] at widths ⊢
  rw [ofGroups?, if_pos widths, Hex.number_upper first, Hex.number_upper second,
    Hex.number_upper third, last]
  simp only [Option.bind_eq_bind, Option.bind_some, dif_pos guid.last_length, guid_of_fields]

theorem groups_injective {one other : Guid} (same : one.groups = other.groups) : one = other := by
  have read := one.of_groups
  rw [same, of_groups] at read
  exact (Option.some.inj read).symm

theorem groups_of_groups {groups : List (List Char)} {guid : Guid}
    (read : ofGroups? groups = some guid) : groups = guid.groups := by
  unfold ofGroups? at read
  split at read
  · next first second third front back =>
      split_ifs at read with widths
      simp only [List.map_cons, List.map_nil, List.cons.injEq, and_true] at widths
      obtain ⟨firstWidth, secondWidth, thirdWidth, frontWidth, backWidth⟩ := widths
      simp only [Option.bind_eq_bind, Option.bind_eq_some_iff, Hex.number_iff, Hex.bytes_iff,
        firstWidth, secondWidth, thirdWidth] at read
      obtain ⟨one, ⟨oneFits, rfl⟩, two, ⟨twoFits, rfl⟩, three, ⟨threeFits, rfl⟩, last, same,
        found⟩ := read
      split_ifs at found with size
      cases found
      have halves : front = plain (last.take 2) ∧ back = plain (last.drop 2) := by
        apply List.append_inj
        · rw [plain_split, same]
          rfl
        · rw [length_plain, frontWidth, List.length_take, size]
          rfl
      rw [Guid.groups, first_of_fields _ oneFits, second_of_fields _ twoFits,
        third_of_fields _ threeFits, last_of_fields, halves.1, halves.2]
  · cases read

theorem of_text_iff (text : String) (guid : Guid) :
    ofText? text = some guid ↔ guid.text = text := by
  constructor
  · intro read
    apply String.toList_inj.mp
    rw [text_groups, ← groups_of_groups read, List.intercalate_splitOn]
  · rintro rfl
    rw [ofText?, split_text, of_groups]

theorem text_injective {one other : Guid} (same : one.text = other.text) : one = other := by
  apply groups_injective
  rw [← split_text, same, split_text]

theorem groups_of_fields (fields : Fields) : fields.guid.groups =
    [Hex.upper 8 fields.first.toNat, Hex.upper 4 fields.second.toNat,
      Hex.upper 4 fields.third.toNat, plain (fields.last.val.take 2),
      plain (fields.last.val.drop 2)] := by
  rw [groups, Fields.guid, first_of_fields _ fields.first.toNat_lt,
    second_of_fields _ fields.second.toNat_lt, third_of_fields _ fields.third.toNat_lt,
    last_of_fields]

-- The text tells the fields in five groups of upper case digits: the numbers in all their places,
-- and two digits for each of the bytes.
def Fields.Spelled (fields : Fields) (text : String) : Prop :=
  ∃ first second third front back : List Char,
    text = String.ofList (['-'].intercalate [first, second, third, front, back]) ∧
      [first, second, third, front, back].map List.length = [8, 4, 4, 4, 12] ∧
      Hex.number? first = some fields.first.toNat ∧
      Hex.number? second = some fields.second.toNat ∧
      Hex.number? third = some fields.third.toNat ∧
      Hex.bytes? front = some (fields.last.val.take 2) ∧
      Hex.bytes? back = some (fields.last.val.drop 2)

theorem text_iff_spelled (fields : Fields) (text : String) :
    fields.guid.text = text ↔ fields.Spelled text := by
  have joined : fields.guid.text = String.ofList (['-'].intercalate fields.guid.groups) := by
    rw [← text_groups, String.ofList_toList]
  have groups := groups_of_fields fields
  constructor
  · rintro rfl
    have widths := fields.guid.length_groups
    rw [groups] at joined widths
    exact ⟨_, _, _, _, _, joined, widths, Hex.number_upper fields.first.toNat_lt,
      Hex.number_upper fields.second.toNat_lt, Hex.number_upper fields.third.toNat_lt,
      (Hex.bytes_iff _ _).mpr rfl, (Hex.bytes_iff _ _).mpr rfl⟩
  · rintro ⟨first, second, third, front, back, rfl, widths, one, two, three, four, five⟩
    simp only [List.map_cons, List.map_nil, List.cons.injEq, and_true] at widths
    obtain ⟨firstWidth, secondWidth, thirdWidth, -, -⟩ := widths
    rw [Hex.number_iff, firstWidth] at one
    rw [Hex.number_iff, secondWidth] at two
    rw [Hex.number_iff, thirdWidth] at three
    rw [Hex.bytes_iff] at four five
    rw [joined, groups, one.2, two.2, three.2, four, five]
    rfl

def zero : Guid := ofFields 0 0 0 ⟨List.replicate 8 0, rfl⟩

theorem is_nil_iff (guid : Guid) : guid.isNil = true ↔ guid = zero := by
  constructor
  · intro blank
    obtain ⟨⟨bytes, size⟩⟩ := guid
    have zeros : bytes = List.replicate 16 0 := by
      refine List.eq_replicate_iff.mpr ⟨size, fun byte member => ?_⟩
      exact eq_of_beq (List.all_eq_true.mp blank byte member)
    exact congrArg Guid.mk (Subtype.ext zeros)
  · rintro rfl
    rfl

theorem mem_text {guid : Guid} {group : List Char} (member : group ∈ guid.groups)
    {character : Char} (inside : character ∈ group) : character ∈ guid.text.toList := by
  simp only [groups, List.mem_cons, List.not_mem_nil, or_false] at member
  rw [text, String.toList_ofList]
  rcases member with rfl | rfl | rfl | rfl | rfl <;> simp [inside]

theorem nil_text_iff (guid : Guid) :
    guid.isNil = true ↔ ∀ character ∈ guid.text.toList, character ≠ '-' → character = '0' := by
  rw [is_nil_iff]
  constructor
  · rintro rfl character member digit
    have zeros : (zero.text.toList.all fun character => character == '-' || character == '0') =
        true := by decide
    have either := List.all_eq_true.mp zeros character member
    simpa [digit] using either
  · intro zeros
    have blank : ∀ group ∈ guid.groups, group = List.replicate group.length '0' := by
      intro group member
      refine List.eq_replicate_iff.mpr ⟨rfl, fun character inside => ?_⟩
      apply zeros character (mem_text member inside)
      rintro rfl
      exact hyphen_not_mem member inside
    have same : guid.groups = zero.groups := by
      calc guid.groups
        _ = guid.groups.map (fun group => List.replicate group.length '0') :=
            (List.map_id _).symm.trans (List.map_congr_left blank)
        _ = (guid.groups.map List.length).map fun width => List.replicate width '0' := by
            rw [List.map_map]
            rfl
        _ = zero.groups := by
            rw [length_groups]
            rfl
    exact groups_injective same

end Text

end Guid

theorem guid_forms_determine_each_other :
    (∀ (fields : Guid.Fields) (text : String),
      fields.guid.text = text ↔ fields.Spelled text) ∧
    (∀ guid : Guid, guid.text.length = 36) ∧
    (∀ guid : Guid, ∃! fields : Guid.Fields, fields.guid = guid) ∧
    (∀ (text : String) (guid : Guid), Guid.ofText? text = some guid ↔ guid.text = text) ∧
    (∀ one other : Guid, one.text = other.text ↔ one.bytes = other.bytes) ∧
    ∀ guid : Guid, guid.isNil = true ↔
      ∀ character ∈ guid.text.toList, character ≠ '-' → character = '0' := by
  refine ⟨Guid.text_iff_spelled, Guid.length_text, ?_, Guid.of_text_iff, ?_,
    Guid.nil_text_iff⟩
  · intro guid
    refine ⟨guid.toFields, guid.guid_to_fields, ?_⟩
    rintro fields rfl
    exact (Guid.to_fields_guid fields).symm
  · intro one other
    exact ⟨fun same => congrArg Guid.bytes (Guid.text_injective same),
      fun same => congrArg (fun bytes => (Guid.mk bytes).text) same⟩

example : (Guid.ofFields 0x66F0D379 0xB4F3 0x4074
    ⟨[0xAC, 0x43, 0x0D, 0x33, 0x18, 0xB7, 0x8C, 0xDB], rfl⟩).text =
      "66F0D379-B4F3-4074-AC43-0D3318B78CDB" := by decide

end AcpiAudit
