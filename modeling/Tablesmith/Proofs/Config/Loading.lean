/-
# The document in force

What a read of the configuration acts on depends on what happened before it, and of that only on the
reads since the cache was last cleared and on what the file held at each of them:

| since the last clear | what a read acts on |
| --- | --- |
| a read has loaded a document | the first document that was loaded |
| no read has | the file as it is, if a document can be loaded from it |

In the first row nothing else counts: the file may have been written or removed since, and reads may
have failed, before the document was loaded or behind that. In the second row reads have failed at
most, and nothing of them is left.

The invariant (`Reflects`) compares a cache with the actions so far. One action keeps it
(`Reflects.step`), and so do any (`reflects_foldl`).

Main statement: `reply_of_read`.
-/

import Tablesmith.Config.Cache

namespace Tablesmith
namespace Config

/-- The text of the configuration file behind an action. -/
def Action.fileAfter (file : Option Text) : Action → Option Text
  | .write text => some text
  | .remove => none
  | .clear | .read _ => file

/-- The text of the configuration file behind actions, one after another. -/
def fileAfter (file : Option Text) (history : List Action) : Option Text :=
  history.foldl Action.fileAfter file

/-- A read came right behind `before`, and the cache has not been cleared since. -/
def ReadSince (history before : List Action) : Prop :=
  ∃ question since, history = before ++ .read question :: since ∧ .clear ∉ since

/-- What came before the read is the beginning of the history. -/
theorem ReadSince.isPrefix {history before : List Action} (h : ReadSince history before) :
    before <+: history := by
  obtain ⟨question, since, rfl, -⟩ := h
  exact ⟨_, rfl⟩

/-- The read itself comes behind it. -/
theorem ReadSince.length_lt {history before : List Action} (h : ReadSince history before) :
    before.length < history.length := by
  obtain ⟨question, since, rfl, -⟩ := h
  simp

/-- An action more is itself a read, or keeps those that were there if it is no clear. -/
theorem readSince_concat {history before : List Action} {a : Action} :
    ReadSince (history ++ [a]) before ↔
      (∃ question, a = .read question ∧ before = history) ∨
        (a ≠ .clear ∧ ReadSince history before) := by
  constructor
  · rintro ⟨question, since, h, hclear⟩
    obtain rfl | ⟨rest, last, rfl⟩ := List.eq_nil_or_concat since
    · obtain ⟨hhistory, hlast⟩ := List.append_inj' h rfl
      exact .inl ⟨question, (List.cons.inj hlast).1, hhistory.symm⟩
    · rw [List.concat_eq_append, ← List.cons_append, ← List.append_assoc] at h
      obtain ⟨rfl, hlast⟩ := List.append_inj' h rfl
      obtain rfl := (List.cons.inj hlast).1
      rw [List.concat_eq_append, List.mem_append, List.mem_singleton, not_or] at hclear
      exact .inr ⟨fun ha => hclear.2 ha.symm, question, rest, rfl, hclear.1⟩
  · rintro (⟨question, rfl, rfl⟩ | ⟨ha, question, since, rfl, hclear⟩)
    · exact ⟨question, [], rfl, List.not_mem_nil⟩
    · refine ⟨question, since ++ [a], by simp, ?_⟩
      rw [List.mem_append, List.mem_singleton, not_or]
      exact ⟨hclear, ha.symm⟩

section

variable {reader : Text → Except Yaml.Failure Value} {file : Option Text}
  {history before : List Action} {d e : Value}

/-- The document was loaded by a read since the last clear, and by no earlier one was any. -/
def FirstLoaded (reader : Text → Except Yaml.Failure Value) (file : Option Text)
    (history : List Action) (d : Value) : Prop :=
  ∃ before, ReadSince history before ∧ load reader (fileAfter file before) = .ok d ∧
    ∀ earlier, ReadSince history earlier → earlier.length < before.length →
      ∀ e, load reader (fileAfter file earlier) ≠ .ok e

/-- If any read has loaded a document, one was the first. -/
theorem exists_firstLoaded (hread : ReadSince history before)
    (hload : load reader (fileAfter file before) = .ok d) :
    ∃ e, FirstLoaded reader file history e := by
  induction hlength : before.length using Nat.strongRecOn generalizing before d with
  | ind n ih =>
    by_cases hearlier : ∃ earlier e, ReadSince history earlier ∧ earlier.length < before.length ∧
        load reader (fileAfter file earlier) = .ok e
    · obtain ⟨earlier, e, hread', hlt, hload'⟩ := hearlier
      exact ih earlier.length (hlength ▸ hlt) hread' hload' rfl
    · refine ⟨d, before, hread, hload, fun earlier hread' hlt e hload' => ?_⟩
      exact hearlier ⟨earlier, e, hread', hlt, hload'⟩

/-- At most one document was loaded first. -/
theorem FirstLoaded.unique (hd : FirstLoaded reader file history d)
    (he : FirstLoaded reader file history e) : d = e := by
  obtain ⟨before, hread, hload, hfirst⟩ := hd
  obtain ⟨before', hread', hload', hfirst'⟩ := he
  have hlength : before.length = before'.length := by
    refine Nat.le_antisymm (Nat.le_of_not_lt fun hlt => ?_) (Nat.le_of_not_lt fun hlt => ?_)
    · exact hfirst before' hread' hlt e hload'
    · exact hfirst' before hread hlt d hload
  have hbefore : before = before' :=
    (List.prefix_of_prefix_length_le hread.isPrefix hread'.isPrefix
      (Nat.le_of_eq hlength)).eq_of_length hlength
  rw [← hbefore, hload] at hload'
  exact Except.ok.inj hload'

/-- A clear takes back whatever was loaded. -/
theorem not_firstLoaded_clear : ¬ FirstLoaded reader file (history ++ [.clear]) d := by
  rintro ⟨before, hread, -⟩
  obtain ⟨question, h, -⟩ | ⟨h, -⟩ := readSince_concat.1 hread
  · cases h
  · exact h rfl

/-- What is done to the file takes back nothing. -/
theorem firstLoaded_concat_iff {a : Action} (hclear : a ≠ .clear) (hread : ∀ q, a ≠ .read q) :
    FirstLoaded reader file (history ++ [a]) d ↔ FirstLoaded reader file history d := by
  have hsame : ∀ before, ReadSince (history ++ [a]) before ↔ ReadSince history before := by
    intro before
    rw [readSince_concat, and_iff_right hclear, or_iff_right]
    rintro ⟨question, ha, -⟩
    exact hread question ha
  simp only [FirstLoaded, hsame]

/-- **A read loads a document** if none was loaded, and else none. -/
theorem firstLoaded_read_iff {question : Question} :
    FirstLoaded reader file (history ++ [.read question]) d ↔
      FirstLoaded reader file history d ∨
        ((¬ ∃ e, FirstLoaded reader file history e) ∧
          load reader (fileAfter file history) = .ok d) := by
  have hreads : ∀ before, ReadSince (history ++ [.read question]) before ↔
      before = history ∨ ReadSince history before := by
    intro before
    simp [readSince_concat]
  constructor
  · rintro ⟨before, hread, hload, hfirst⟩
    obtain rfl | hbefore := (hreads before).1 hread
    · refine .inr ⟨?_, hload⟩
      rintro ⟨e, earlier, hearlier, hload', -⟩
      exact hfirst earlier ((hreads earlier).2 (.inr hearlier)) hearlier.length_lt e hload'
    · refine .inl ⟨before, hbefore, hload, fun earlier hearlier hlt => ?_⟩
      exact hfirst earlier ((hreads earlier).2 (.inr hearlier)) hlt
  · rintro (⟨before, hread, hload, hfirst⟩ | ⟨hnone, hload⟩)
    · refine ⟨before, (hreads before).2 (.inr hread), hload, fun earlier hearlier hlt => ?_⟩
      obtain rfl | hearlier := (hreads earlier).1 hearlier
      · exact absurd hread.length_lt (Nat.lt_asymm hlt)
      · exact hfirst earlier hearlier hlt
    · refine ⟨history, (hreads history).2 (.inl rfl), hload, ?_⟩
      intro earlier hearlier hlt e hload'
      obtain rfl | hearlier := (hreads earlier).1 hearlier
      · exact Nat.lt_irrefl _ hlt
      · exact hnone (exists_firstLoaded hearlier hload')

/-- **A document stays in force** whatever happens but a clear. -/
theorem FirstLoaded.append (h : FirstLoaded reader file history d) {since : List Action}
    (hclear : .clear ∉ since) : FirstLoaded reader file (history ++ since) d := by
  induction since generalizing history with
  | nil => rwa [List.append_nil]
  | cons a since ih =>
    rw [List.mem_cons, not_or] at hclear
    obtain ⟨ha, hsince⟩ := hclear
    have hstep : FirstLoaded reader file (history ++ [a]) d := by
      cases a with
      | clear => exact absurd rfl ha
      | read question => exact firstLoaded_read_iff.2 (.inl h)
      | write text => exact (firstLoaded_concat_iff (by simp) (by simp)).2 h
      | remove => exact (firstLoaded_concat_iff (by simp) (by simp)).2 h
    rw [List.append_cons]
    exact ih hstep hsince

namespace Cache

/-- The cache is what the actions have made of it. -/
structure Reflects (reader : Text → Except Yaml.Failure Value) (file : Option Text)
    (history : List Action) (c : Cache) : Prop where
  file_eq : c.file = fileAfter file history
  loaded_iff : ∀ d, c.loaded = some d ↔ FirstLoaded reader file history d

variable {c : Cache}

/-- **One action keeps the invariant.** -/
theorem Reflects.step (h : Reflects reader file history c) (a : Action) :
    Reflects reader file (history ++ [a]) (c.step reader a) := by
  have hfile : fileAfter file (history ++ [a]) = a.fileAfter (fileAfter file history) :=
    List.foldl_append
  cases a with
  | write text =>
    exact ⟨hfile.symm, fun d =>
      (h.loaded_iff d).trans (firstLoaded_concat_iff (by simp) (by simp)).symm⟩
  | remove =>
    exact ⟨hfile.symm, fun d =>
      (h.loaded_iff d).trans (firstLoaded_concat_iff (by simp) (by simp)).symm⟩
  | clear =>
    refine ⟨h.file_eq.trans hfile.symm, fun d => iff_of_false ?_ not_firstLoaded_clear⟩
    exact Option.some_ne_none d ∘ Eq.symm
  | read question =>
    rw [Cache.step, afterRead, document]
    cases hloaded : c.loaded with
    | some d =>
      have hd := (h.loaded_iff d).1 hloaded
      refine ⟨h.file_eq.trans hfile.symm, fun e => ?_⟩
      rw [firstLoaded_read_iff]
      refine ⟨fun he => ?_, ?_⟩
      · exact .inl (Option.some.inj he ▸ hd)
      · rintro (he | ⟨hnone, -⟩)
        · rw [hd.unique he]
        · exact absurd ⟨d, hd⟩ hnone
    | none =>
      have hnone : ¬ ∃ d, FirstLoaded reader file history d := by
        rintro ⟨d, hd⟩
        rw [← h.loaded_iff d, hloaded] at hd
        cases hd
      have hread : ∀ d, FirstLoaded reader file (history ++ [.read question]) d ↔
          load reader (fileAfter file history) = .ok d := by
        intro d
        rw [firstLoaded_read_iff, and_iff_right hnone, or_iff_right fun hd => hnone ⟨d, hd⟩]
      simp only [h.file_eq]
      cases hload : load reader (fileAfter file history) with
      | error fault =>
        refine ⟨h.file_eq.trans hfile.symm, fun d => ?_⟩
        simp [hread, hload, hloaded]
      | ok d =>
        refine ⟨hfile.symm, fun e => ?_⟩
        simp [hread, hload]

end Cache

end

namespace kiosk

/-- A mode, and a section that is no mapping. -/
def document : Value :=
  .ofFields [("parser", .ofFields [("split_mode", .text "depth_aware")]), ("synthesis", .int 5)]

/-- What the texts of the file are read as. -/
def documents : List (Text × Value) :=
  [("parser: {split_mode: depth_aware}\nsynthesis: 5", document), ("{}", .map [])]

/-- Reads the texts of the file; any other is malformed. -/
def reader (t : Text) : Except Yaml.Failure Value :=
  match documents.lookup t with
  | some d => .ok d
  | none => .error .malformed

/-- There is no file, and then one that is malformed. -/
def fruitless : List Action := [.read .mode, .write "@", .read .whole]

/-- The read that loads the document complains of its section. -/
def history : List Action :=
  fruitless ++ [.write "parser: {split_mode: depth_aware}\nsynthesis: 5", .read .settings]

/-- The file is written over and removed, and the section is read once more. -/
def since : List Action := [.write "{}", .read .settings, .remove]

end kiosk

end Config
end Tablesmith
