/-!
# Occurrences among octets

A text is stored as the octets of its UTF-8 form, and a search may compare octets.  The first octet of a character is
told apart from the others, so the octets of a nonempty text occur only between characters (`OccursAt.isValid`), where
its characters occur too (`occursAt_iff`).
-/

namespace AnalyzerBench.Text

/-- The octets of the needle stand in the text from the position `pos` on. -/
def OccursAt (needle s : String) (pos : Nat) : Prop :=
  s.toByteArray.extract pos (pos + needle.utf8ByteSize) = needle.toByteArray

variable {needle s : String} {pos : Nat}

private theorem OccursAt.le_size (h : OccursAt needle s pos) (hne : needle ≠ "") :
    pos + needle.utf8ByteSize ≤ s.utf8ByteSize := by
  have hpos : needle.utf8ByteSize ≠ 0 := fun hzero => hne (String.utf8ByteSize_eq_zero_iff.1 hzero)
  have hsize := congrArg ByteArray.size h
  rw [ByteArray.size_extract, String.size_toByteArray, String.size_toByteArray] at hsize
  omega

theorem utf8ByteSize_le_of_prefix {t : String} (h : s.toList <+: t.toList) : s.utf8ByteSize ≤ t.utf8ByteSize := by
  obtain ⟨rest, hrest⟩ := h
  have ht : t = s ++ String.ofList rest := by
    rw [← String.toList_inj, ← hrest]
    simp
  rw [ht, String.utf8ByteSize_append]
  omega

/-- No character of the text is cut by an occurrence. -/
theorem OccursAt.isValid (h : OccursAt needle s pos) (hne : needle ≠ "") :
    String.Pos.Raw.IsValid s ⟨pos⟩ ∧ String.Pos.Raw.IsValid s ⟨pos + needle.utf8ByteSize⟩ := by
  have hvalid : (s.toByteArray.extract pos (pos + needle.utf8ByteSize)).IsValidUTF8 := by
    rw [h]
    exact needle.isValidUTF8
  have hstart : (⟨pos⟩ : String.Pos.Raw) ≤ ⟨pos + needle.utf8ByteSize⟩ := Nat.le_add_right pos _
  have hend : (⟨pos + needle.utf8ByteSize⟩ : String.Pos.Raw) ≤ s.rawEndPos := h.le_size hne
  rcases (String.Pos.Raw.isValidUTF8_extract_iff _ _ hstart hend).1 hvalid with hsame | hvalid
  · have hzero : pos = pos + needle.utf8ByteSize := congrArg String.Pos.Raw.byteIdx hsame
    exact absurd (String.utf8ByteSize_eq_zero_iff.1 (by omega)) hne
  · exact hvalid

private theorem occursAt_append {before rest : String} :
    OccursAt needle (before ++ rest) before.utf8ByteSize ↔ OccursAt needle rest 0 := by
  have hshift := ByteArray.extract_append_size_add (a := before.toByteArray) (b := rest.toByteArray) (i := 0)
    (j := needle.utf8ByteSize)
  rw [Nat.add_zero, String.size_toByteArray] at hshift
  unfold OccursAt
  rw [String.toByteArray_append, hshift, Nat.zero_add]

private theorem occursAt_zero_iff (hne : needle ≠ "") : OccursAt needle s 0 ↔ ∃ after, s = needle ++ after := by
  constructor
  · intro h
    obtain ⟨start, after, rfl, hstart⟩ := String.Pos.Raw.isValid_iff_exists_append.1 (h.isValid hne).2
    have hlen : 0 + needle.utf8ByteSize = start.toByteArray.size := congrArg String.Pos.Raw.byteIdx hstart
    unfold OccursAt at h
    rw [String.toByteArray_append, ByteArray.extract_append_eq_left hlen, String.toByteArray_inj] at h
    exact ⟨after, by rw [h]⟩
  · rintro ⟨after, rfl⟩
    unfold OccursAt
    rw [String.toByteArray_append]
    exact ByteArray.extract_append_eq_left (Nat.zero_add _)

/-- The octets of the needle occur where its characters do and nowhere else. -/
theorem occursAt_iff (hne : needle ≠ "") :
    OccursAt needle s pos ↔ ∃ before after, s = before ++ needle ++ after ∧ pos = before.utf8ByteSize := by
  constructor
  · intro h
    obtain ⟨before, rest, rfl, hbefore⟩ := String.Pos.Raw.isValid_iff_exists_append.1 (h.isValid hne).1
    obtain rfl : pos = before.utf8ByteSize := congrArg String.Pos.Raw.byteIdx hbefore
    obtain ⟨after, rfl⟩ := (occursAt_zero_iff hne).1 (occursAt_append.1 h)
    exact ⟨before, after, (String.append_assoc ..).symm, rfl⟩
  · rintro ⟨before, after, rfl, rfl⟩
    rw [String.append_assoc, occursAt_append]
    exact (occursAt_zero_iff hne).2 ⟨after, rfl⟩

end AnalyzerBench.Text
