import BuildVersion.Console.Journal
import BuildVersion.Proofs.Text.Quoted
import BuildVersion.Proofs.Version.Normalize

namespace BuildVersion.Version

open SemVer (Parts emptyMessage strictMessage)

def rejection (text : String) : FormatError :=
  let value := String.ofList (Text.removeLeading ['v'] text.toList)
  ⟨value, if value = "" then emptyMessage else strictMessage⟩

/-- What a journal holds after the notices of an error. -/
def VersionError.journal (e : VersionError) : Console.Journal :=
  ({} : Console.Journal).append e.notices

def VersionError.errorRecords (e : VersionError) : List Console.Record :=
  e.journal.records.filter fun r => r.style = .error

section Normalize

variable {text : String} {e : FormatError}

theorem normalize_of_no_parts (hnone : ∀ p : Parts, p.WellFormed → ¬p.IsTextOf text.toList) :
    normalize text = .err (rejection text) := by
  rw [normalize, SemVer.parse_of_no_parts, Outcome.bind_err, rejection]
  intro p hp hwritten
  rw [String.toList_ofList, hp.written_eq_removeLeading_iff] at hwritten
  exact hnone p hp hwritten

theorem normalize_eq_err_iff :
    normalize text = .err e ↔
      (∀ p : Parts, p.WellFormed → ¬p.IsTextOf text.toList) ∧ e = rejection text := by
  constructor
  · intro hnormalize
    have hnone : ∀ p : Parts, p.WellFormed → ¬p.IsTextOf text.toList := by
      intro p hp htext
      by_cases hshort : p.Short
      · rw [normalize_of_short hp htext hshort] at hnormalize
        contradiction
      · rw [normalize_eq_aborted_iff.mpr ⟨rfl, p, hp, htext, hshort⟩] at hnormalize
        contradiction
    rw [normalize_of_no_parts hnone, Outcome.err.injEq] at hnormalize
    exact ⟨hnone, hnormalize.symm⟩
  · rintro ⟨hnone, rfl⟩
    exact normalize_of_no_parts hnone

theorem isVisible_message_rejection (text : String) :
    Text.IsVisible (rejection text).message.toList := by
  rw [rejection]
  dsimp only
  split
  · exact Text.isVisible_of_all (by decide)
  · exact Text.isVisible_of_all (by decide)

end Normalize

namespace FormatError

variable {e f : FormatError}

theorem text_eq (e : FormatError) : e.text = e.message ++ (": " ++ Text.quoted e.value) := by
  simp [text, toString, String.append_assoc]

theorem text_eq_iff (hmessage : e.message = f.message) : e.text = f.text ↔ e.value = f.value := by
  rw [text_eq, text_eq, hmessage, String.append_right_inj, String.append_right_inj,
    Text.quoted_injective.eq_iff]

theorem errorRecords_format (e : FormatError) :
    (VersionError.format e).errorRecords = [⟨"error: " ++ e.text, .error⟩] := rfl

theorem errorRecords_eq_iff (hmessage : e.message = f.message) :
    (VersionError.format e).errorRecords = (VersionError.format f).errorRecords ↔
      e.value = f.value := by
  rw [errorRecords_format, errorRecords_format, ← text_eq_iff hmessage]
  simp

theorem isVisible_text (hmessage : Text.IsVisible e.message.toList) :
    Text.IsVisible e.text.toList := by
  rw [text_eq, String.toList_append, String.toList_append, Text.isVisible_append,
    Text.isVisible_append]
  exact ⟨hmessage, Text.isVisible_of_all (by decide), Text.isVisible_quoted e.value⟩

theorem isVisible_of_mem_journal (hmessage : Text.IsVisible e.message.toList) :
    ∀ r ∈ (VersionError.format e).journal.records, Text.IsVisible r.message.toList := by
  intro r hr
  obtain ⟨notice, hnotice, rfl⟩ := List.mem_map.mp hr
  obtain rfl | rfl := by simpa only [VersionError.notices, List.mem_pair] using hnotice
  · rw [Console.Notice.record, String.toList_append, Text.isVisible_append]
    exact ⟨Text.isVisible_of_all (by decide), isVisible_text hmessage⟩
  · exact Text.isVisible_of_all (by decide)

end FormatError

/-- Two rejected texts with one message are shown alike, in one line or as the record of an error,
only if they are the same text but for a leading `v`, and everything that is written of them is
visible: what follows the message, and each record. -/
theorem rejected_texts_shown_apart {x y : String} {e f : FormatError}
    (hx : normalize x = .err e) (hy : normalize y = .err f) (hmessage : e.message = f.message) :
    (e.text = f.text ↔ e.value = f.value) ∧
      ((VersionError.format e).errorRecords = (VersionError.format f).errorRecords ↔
        e.value = f.value) ∧
      (e.value = f.value ↔
        Text.removeLeading ['v'] x.toList = Text.removeLeading ['v'] y.toList) ∧
      (∃ shown : String, e.text = e.message ++ shown ∧
        (VersionError.format e).errorRecords = [⟨"error: " ++ e.message ++ shown, .error⟩] ∧
        Text.IsVisible shown.toList) ∧
      ∀ r ∈ (VersionError.format e).journal.records, Text.IsVisible r.message.toList := by
  have hvisible : Text.IsVisible e.message.toList := by
    rw [(normalize_eq_err_iff.mp hx).2]
    exact isVisible_message_rejection x
  refine ⟨FormatError.text_eq_iff hmessage, FormatError.errorRecords_eq_iff hmessage, ?_, ?_,
    FormatError.isVisible_of_mem_journal hvisible⟩
  · rw [(normalize_eq_err_iff.mp hx).2, (normalize_eq_err_iff.mp hy).2]
    exact String.ofList_inj
  · have htext := FormatError.isVisible_text hvisible
    rw [FormatError.text_eq, String.toList_append, Text.isVisible_append] at htext
    refine ⟨": " ++ Text.quoted e.value, FormatError.text_eq e, ?_, htext.2⟩
    rw [FormatError.errorRecords_format, FormatError.text_eq, String.append_assoc]

/-- A line feed is not shown as a backslash and an `n` are. -/
theorem line_feed_shown_apart :
    normalize "v1\n2" = .err ⟨"1\n2", strictMessage⟩ ∧
      normalize "1\\n2" = .err ⟨"1\\n2", strictMessage⟩ ∧
      (FormatError.mk "1\n2" strictMessage).text ≠ (FormatError.mk "1\\n2" strictMessage).text := by
  have hfeed : normalize "v1\n2" = .err ⟨"1\n2", strictMessage⟩ := by decide +kernel
  have hletters : normalize "1\\n2" = .err ⟨"1\\n2", strictMessage⟩ := by decide +kernel
  refine ⟨hfeed, hletters, fun htext => ?_⟩
  have hvalues := (rejected_texts_shown_apart hfeed hletters rfl).1.mp htext
  exact absurd hvalues (by decide)

end BuildVersion.Version
