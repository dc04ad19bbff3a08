/-
# A run of the command line

A run reads the bytes of its script, writes the line endings as newlines, and then makes the one
pass over it. Neither of the first two steps changes what is generated: the bytes are read as the
script, as they are where they were written from it (`holds_of_encode?`), and a script declares the
same with any line endings. So the output is the module of the pass, if the output takes it
(`output_run`).

The arguments that ask for such a run are accepted (`parse_arguments`). A database name may be any
text, because it is attached to its flag, and the script's path may be any text behind the
separator; the names of tables begin with no dash.
-/

import Tablesmith.CommandLine.Run
import Tablesmith.Proofs.FrontEnd.Service
import Tablesmith.Proofs.Sql.LineEnding
import Tablesmith.Proofs.Sql.Shape
import Tablesmith.Proofs.Text.Encoding

namespace Tablesmith

/-- Work in two parts goes well exactly if both do. -/
theorem bind_eq_ok_iff {ε α β : Type} {x : Except ε α} {f : α → Except ε β} {b : β} :
    x.bind f = .ok b ↔ ∃ a, x = .ok a ∧ f a = .ok b := by
  cases x <;> simp [Except.bind]

/-- What is read is there. -/
theorem Disk.leadsSomewhere_of_read {α : Type} {d : Disk α} {home : Path} {t : Text} {content : α}
    (h : d.read home t = .ok content) : d.leadsSomewhere home t = .ok true := by
  simp only [Disk.read, bind, Except.bind] at h
  rw [Disk.leadsSomewhere]
  cases hlocate : d.locate home t with
  | error fault =>
    rw [hlocate] at h
    cases h
  | ok p =>
    rw [hlocate] at h
    simp only [] at h
    split at h
    · next found hfile => simp [Disk.isThere, hfile]
    · cases h

namespace CommandLine

open Text (Bytes)

/-- A script lies at the path that the arguments name, in UTF-8. -/
def Holds (w : Workplace) (path script : Text) : Prop :=
  ∃ bytes, w.disk.read w.home path = .ok bytes ∧ Text.decode? bytes = some script

/-- A script that was written to the path lies there. -/
theorem holds_of_encode? {w : Workplace} {path script : Text} {bytes : Bytes}
    (hscript : Text.spell (Text.signs script) = script) (hbytes : Text.encode? script = some bytes)
    (hread : w.disk.read w.home path = .ok bytes) : Holds w path script :=
  ⟨bytes, hread, Text.decode?_of_encode? hscript hbytes⟩

/-- What is read are the scripts at the path, with newlines for their line endings. -/
theorem readScript_eq_ok_iff {w : Workplace} {path t : Text} :
    readScript w path = .ok t ↔ ∃ script, Holds w path script ∧ Text.unixNewlines script = t := by
  refine bind_eq_ok_iff.trans ⟨?_, ?_⟩
  · rintro ⟨bytes, hread, ht⟩
    split at ht
    · next script hscript => exact ⟨script, ⟨bytes, hread, hscript⟩, Except.ok.inj ht⟩
    · cases ht
  · rintro ⟨script, ⟨bytes, hread, hscript⟩, rfl⟩
    refine ⟨bytes, hread, ?_⟩
    rw [hscript]
    rfl

/-- The request for a script whose mode is asked for comes to the same with any line endings. -/
theorem generation_unixNewlines (document : Except Fault Value) {o : Options} {m : Sql.SplitMode}
    (hmode : o.mode = some m) (script : Text) :
    Pipeline.generation document (request o (Text.unixNewlines script)) =
      Pipeline.generation document (request o script) := by
  rw [Pipeline.generation_eq, Pipeline.generation_eq]
  simp only [request, hmode, Option.map_some, Pipeline.ofRequest_name,
    Schema.ofScript_unixNewlines]
  rfl

/-- The end of a run that generated something. -/
theorem conclude_of_ok {w : Workplace} {file : Option Text} (hfile : Text.nonempty? file = none)
    {r : Report Pipeline.Result} {result : Pipeline.Result} (h : r.outcome = .ok result) :
    (conclude w file r).output = (result.generation.moduleText.filter w.takes).getD [] ∧
      ((result.generation.moduleText.filter w.takes).isSome →
        (conclude w file r).exit = .ok 0) := by
  simp only [conclude, h]
  cases htext : result.generation.moduleText with
  | none => simp
  | some text =>
    rw [Option.filter_some]
    simp only [deliver, hfile]
    by_cases htakes : w.takes text = true <;> simp [htakes]

/-- **The output of a run** is the module that one pass over the script generates, if the output
takes it. -/
theorem output_run {document : Except Fault Value} {w : Workplace} {a : Arguments} {script : Text}
    {m : Sql.SplitMode} {setup : Log.Setup} (hsetup : setUp document w a.options = .ok setup)
    (hscript : Holds w a.script script) (hmode : a.options.mode = some m)
    (hfile : Text.nonempty? a.options.output = none) {g : Generation}
    (hg : Pipeline.generation document (request a.options script) = .ok g) :
    (run document w a).output = (g.moduleText.filter w.takes).getD [] ∧
      ((g.moduleText.filter w.takes).isSome → (run document w a).exit = .ok 0) := by
  have hthere : w.disk.leadsSomewhere w.home a.script = .ok true := by
    obtain ⟨bytes, hread, -⟩ := hscript
    exact Disk.leadsSomewhere_of_read hread
  have hrun : (generate document w a).outcome =
      (Pipeline.run document (request a.options (Text.unixNewlines script))).outcome := by
    rw [generate, Report.outcome_bind, Report.outcome_ofExcept,
      readScript_eq_ok_iff.2 ⟨script, hscript, rfl⟩]
    rfl
  rw [← generation_unixNewlines document hmode, Pipeline.generation, ← hrun] at hg
  cases hresult : (generate document w a).outcome with
  | error fault =>
    rw [hresult] at hg
    cases hg
  | ok result =>
    rw [hresult] at hg
    obtain rfl := Except.ok.inj hg
    simp only [run, hsetup, perform, hthere]
    exact conclude_of_ok hfile hresult

/-- The arguments that name the database. -/
def naming : (database : Option Text) → List Text
  | some name => [("--database=" : Text) ++ name]
  | none => []

/-- The arguments that select tables, or all of them. -/
def selecting : (tables : Option (List Text)) → List Text
  | some names => ("--tables" : Text) :: names
  | none => [("--all" : Text)]

/-- The arguments for a script at a path. -/
def arguments (m : Sql.SplitMode) (database : Option Text) (tables : Option (List Text))
    (path : Text) : List Text :=
  ("--split-mode" : Text) :: m.name ::
    (naming database ++ (selecting tables ++ [("--" : Text), path]))

/-- What these arguments ask for. -/
def asked (m : Sql.SplitMode) (database : Option Text) (tables : Option (List Text)) : Options :=
  { mode := some m, database := database, tables := tables, all := tables.isNone }

namespace Token

/-- The first argument is read on its own if it is not the separator. -/
theorem ofArguments_cons {t : Text} {token : Token} (h : ofArgument t = .ok token)
    (hseparator : t ≠ "--".toList) (ts : List Text) :
    ofArguments (t :: ts) = (ofArguments ts).map (token :: ·) := by
  rw [ofArguments, if_neg hseparator, h]
  simp only [bind, Except.bind, pure, Except.pure]
  cases ofArguments ts <;> rfl

/-- Behind the separator every argument is a word. -/
theorem ofArguments_separator (ts : List Text) :
    ofArguments ("--" :: ts) = .ok (separator :: ts.map word) := by
  rw [ofArguments]
  rfl

/-- An argument that begins with no dash is a word. -/
theorem ofArguments_word {t : Text} (h : t.head? ≠ some '-') (ts : List Text) :
    ofArguments (t :: ts) = (ofArguments ts).map (word t :: ·) := by
  refine ofArguments_cons (by rw [ofArgument, if_pos (.inl h)]) ?_ ts
  rintro rfl
  exact h rfl

/-- Arguments that begin with no dash are words. -/
theorem ofArguments_words {ts : List Text} (h : ∀ t ∈ ts, t.head? ≠ some '-') (us : List Text) :
    ofArguments (ts ++ us) = (ofArguments us).map (ts.map word ++ ·) := by
  induction ts with
  | nil => cases hus : ofArguments us <;> simp [hus, Except.map]
  | cons t ts ih =>
    obtain ⟨ht, hts⟩ := List.forall_mem_cons.1 h
    rw [List.cons_append, ofArguments_word ht, ih hts]
    cases ofArguments us <;> rfl

/-- A database name that is attached to its flag, whatever it is. -/
theorem ofArgument_database (name : Text) :
    ofArgument (("--database=" : Text) ++ name) = .ok (flag .database false (.equals name)) := by
  have hsplit : splitEquals (("--database=" : Text) ++ name) =
      (("--database" : Text), .equals name) := rfl
  have hlookup : Flag.spellings.lookup (("--database=" : Text) ++ name) = none := rfl
  have hdash : ¬ ((("--database=" : Text) ++ name).head? ≠ some '-' ∨
      ("--database=" : Text) ++ name = ['-']) := by
    rintro (h | h)
    · exact h rfl
    · cases h
  rw [ofArgument, if_neg hdash, spelledOut?, hsplit]
  simp only [hlookup]
  rfl

end Token

/-- The tokens that name the database. -/
def namingTokens : (database : Option Text) → List Token
  | some name => [.flag .database false (.equals name)]
  | none => []

/-- The tokens that select tables, or all of them. -/
def selectingTokens : (tables : Option (List Text)) → List Token
  | some names => .flag .tables false .nothing :: names.map .word
  | none => [.flag .all false .nothing]

/-- The tokens of arguments for a script, one by one. -/
theorem ofArguments_arguments (m : Sql.SplitMode) (database : Option Text)
    {tables : Option (List Text)} (h : ∀ names ∈ tables, ∀ t ∈ names, t.head? ≠ some '-')
    (path : Text) :
    Token.ofArguments (arguments m database tables path) =
      .ok (.flag .splitMode false .nothing :: .word m.name ::
        (namingTokens database ++ (selectingTokens tables ++ [.separator, .word path]))) := by
  have hmode : m.name.head? ≠ some '-' := by
    cases m <;> decide
  have hsplit : Token.ofArgument ("--split-mode" : Text) =
      .ok (.flag .splitMode false .nothing) := by decide +kernel
  have hall : Token.ofArgument ("--all" : Text) = .ok (.flag .all false .nothing) := by
    decide +kernel
  have htables : Token.ofArgument ("--tables" : Text) = .ok (.flag .tables false .nothing) := by
    decide +kernel
  have hselecting : Token.ofArguments (selecting tables ++ [("--" : Text), path]) =
      .ok (selectingTokens tables ++ [.separator, .word path]) := by
    cases tables with
    | none =>
      rw [selecting, List.singleton_append, Token.ofArguments_cons hall (by decide),
        Token.ofArguments_separator]
      rfl
    | some names =>
      rw [selecting, List.cons_append, Token.ofArguments_cons htables (by decide),
        Token.ofArguments_words (h names rfl), Token.ofArguments_separator]
      rfl
  have hnaming : Token.ofArguments
      (naming database ++ (selecting tables ++ [("--" : Text), path])) =
      .ok (namingTokens database ++ (selectingTokens tables ++ [.separator, .word path])) := by
    cases database with
    | none => exact hselecting
    | some name =>
      have hne : ("--database=" : Text) ++ name ≠ "--".toList := by
        rintro ⟨⟩
      rw [naming, List.singleton_append,
        Token.ofArguments_cons (Token.ofArgument_database name) hne, hselecting]
      rfl
  rw [arguments, Token.ofArguments_cons hsplit (by decide), Token.ofArguments_word hmode, hnaming]
  rfl

/-- A step that succeeds leaves its tokens to the ones behind it. -/
theorem foldlM_cons_of_step {r r' : Reading} {token : Token} (h : r.step token = .ok r')
    (tokens : List Token) :
    (token :: tokens).foldlM Reading.step r = tokens.foldlM Reading.step r' := by
  rw [List.foldlM_cons, h]
  rfl

/-- Words are collected for the flag that takes them. -/
theorem foldlM_words (r : Reading) (f : Flag) (words more : List Text)
    (hr : r.pending = .several f words) :
    (more.map Token.word).foldlM Reading.step r =
      .ok { r with pending := .several f (words ++ more) } := by
  induction more generalizing r words with
  | nil =>
    rw [List.append_nil, ← hr]
    rfl
  | cons t ts ih =>
    have hstep : r.step (.word t) = .ok { r with pending := .several f (words ++ [t]) } := by
      simp only [Reading.step, hr]
    rw [List.map_cons, foldlM_cons_of_step hstep]
    refine (ih _ (words ++ [t]) rfl).trans ?_
    rw [List.append_assoc]
    rfl

/-- The end of the arguments: what is selected, and the path. -/
theorem foldlM_selecting (m : Sql.SplitMode) (database : Option Text)
    {tables : Option (List Text)} (h : ∀ names ∈ tables, names ≠ []) (path : Text) :
    ((selectingTokens tables ++ [Token.separator, Token.word path]).foldlM Reading.step
        { options := { mode := some m, database := database } }).bind Reading.finish =
      .ok ⟨path, asked m database tables⟩ := by
  cases tables with
  | none => rfl
  | some names =>
    obtain ⟨name, rest, rfl⟩ := List.exists_cons_of_ne_nil (h names rfl)
    have hflag : Reading.step { options := { mode := some m, database := database } }
        (.flag .tables false .nothing) =
        .ok { options := { mode := some m, database := database }
              pending := .several .tables [] } :=
      rfl
    rw [selectingTokens, List.cons_append, foldlM_cons_of_step hflag, List.foldlM_append,
      foldlM_words _ .tables [] (name :: rest) rfl]
    rfl

/-- **The arguments are accepted.** -/
theorem parse_arguments (m : Sql.SplitMode) (database : Option Text)
    {tables : Option (List Text)}
    (h : ∀ names ∈ tables, names ≠ [] ∧ ∀ t ∈ names, t.head? ≠ some '-') (path : Text) :
    parse (arguments m database tables path) = .ok ⟨path, asked m database tables⟩ := by
  have hmode : ∀ tokens, (.flag .splitMode false .nothing :: .word m.name :: tokens).foldlM
      Reading.step {} = tokens.foldlM Reading.step { options := { mode := some m } } := by
    intro tokens
    cases m <;> rfl
  have hnaming : ∀ tokens, (namingTokens database ++ tokens).foldlM Reading.step
      { options := { mode := some m } } =
      tokens.foldlM Reading.step { options := { mode := some m, database := database } } := by
    intro tokens
    cases database <;> rfl
  rw [parse, ofArguments_arguments m database fun names hnames => (h names hnames).2]
  simp only []
  rw [hmode, hnaming]
  exact foldlM_selecting m database (fun names hnames => (h names hnames).1) path

/-- No table of a script has a name that begins with a dash. -/
theorem head?_of_mem_tableNames {m : Sql.SplitMode} {script name : Text}
    (h : name ∈ (Schema.ofScript m script).tableNames) : name.head? ≠ some '-' := by
  obtain ⟨t, ht, rfl⟩ := List.mem_map.1 h
  have hread := Table.isRead_of_mem_ofScript ht
  intro hhead
  have hdash := hread.name '-' (List.mem_of_mem_head? hhead)
  revert hdash
  decide

end CommandLine
end Tablesmith
