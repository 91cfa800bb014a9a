import SharedSegment.Proofs.Labels.Facades
import SharedSegment.Command

/-!
# Settings that differ in flavor and pinning

Settings of one mode are loaded from files that hold such settings, whatever the toggle is
(`Config.alike_loadFile`), and working directories with such files lead there by the same paths
(`Folder.Alike.lookup`). So command lines do the same in them (`Command.alike_program`).
-/

namespace SharedSegment
open Program

/-- Two files hold settings of one mode, or none for the same reason. -/
def Config.LoadAlike (bytes bytes' : List UInt8) : Prop :=
  ∀ path, OkAlike Config.Alike (loadFile none path (.found (.ok bytes)))
    (loadFile none path (.found (.ok bytes')))

/-- Two entries of a folder are alike if the settings in them are. -/
inductive Folder.Entry.Alike : Folder.Entry → Folder.Entry → Prop where
  | file {bytes bytes'} :
    Config.LoadAlike bytes bytes' →
    Alike (.file bytes) (.file bytes')
  | directory :
    Alike .directory .directory

/-- Two folders have entries that are alike at the same places. -/
def Folder.Alike (d d' : Folder) : Prop :=
  List.Forall₂ (fun x x' => x.1 = x'.1 ∧ x.2.Alike x'.2) d.entries d'.entries

/-- The working directories are alike. The toggles need not be. -/
def Command.Environment.Alike (env env' : Command.Environment) : Prop :=
  env.folder.Alike env'.folder

/-- What two paths lead to is alike. -/
inductive Config.File.Alike : Config.File → Config.File → Prop where
  | missing :
    Alike .missing .missing
  | refused {e} :
    Alike (.found (.error e)) (.found (.error e))
  | found {bytes bytes'} :
    LoadAlike bytes bytes' →
    Alike (.found (.ok bytes)) (.found (.ok bytes'))

/-- What is looked up under equal keys is related. -/
lemma lookup_forall₂ {α β γ : Type} [BEq α] {R : β → γ → Prop} {l : List (α × β)}
    {l' : List (α × γ)} (alike : List.Forall₂ (fun x x' => x.1 = x'.1 ∧ R x.2 x'.2) l l') (k : α) :
    Option.Rel R (l.lookup k) (l'.lookup k) := by
  induction alike with
  | nil => exact .none
  | @cons x x' l l' same _ ih =>
    obtain ⟨a, b⟩ := x
    obtain ⟨a', b'⟩ := x'
    obtain ⟨rfl, same⟩ := same
    rw [List.lookup_cons, List.lookup_cons]
    cases k == a with
    | true => exact .some same
    | false => exact ih

namespace Config

lemma loadFile_found (toggle : Option String) (path : String) (bytes : List UInt8) :
    loadFile toggle path (.found (.ok bytes)) =
      (loadFile none path (.found (.ok bytes))).map (·.withToggle toggle) := by
  unfold loadFile
  dsimp only
  cases Text.Utf8.decode bytes with
  | none => rfl
  | some text =>
    dsimp only
    cases load text with
    | error e => rfl
    | ok c => rfl

lemma alike_withToggle {c c' : Config} {toggle toggle' : Option String} (alike : c.Alike c') :
    (c.withToggle toggle).Alike (c'.withToggle toggle') := by
  cases toggle <;> cases toggle' <;> exact alike

lemma loadAlike_refl (bytes : List UInt8) : LoadAlike bytes bytes := by
  intro path
  cases loadFile none path (.found (.ok bytes)) with
  | ok c => exact .ok rfl
  | error e => exact .error

/-- Whatever the toggle is, settings are loaded alike. -/
lemma alike_loadFile {x x' : File} {toggle toggle' : Option String} (path : String)
    (alike : x.Alike x') :
    OkAlike Alike (loadFile toggle path x) (loadFile toggle' path x') := by
  cases alike with
  | missing => exact .error
  | refused => exact .error
  | @found bytes bytes' alike =>
    rw [loadFile_found toggle, loadFile_found toggle']
    have same := alike path
    generalize loadFile none path (.found (.ok bytes)) = r at same ⊢
    generalize loadFile none path (.found (.ok bytes')) = r' at same ⊢
    cases same with
    | ok same => exact .ok (alike_withToggle same)
    | error => exact .error

end Config

namespace Folder

variable {d d' : Folder} {path : List String}

lemma Alike.entry? (alike : d.Alike d') (path : List String) :
    Option.Rel Entry.Alike (d.entry? path) (d'.entry? path) := by
  have paths : d.entries.map Prod.fst = d'.entries.map Prod.fst :=
    List.forall₂_eq_eq_eq ▸ List.forall₂_map_left_iff.2 (List.forall₂_map_right_iff.2
      (alike.imp fun _ _ same => same.1))
  have above : (d.entries.any fun e => isAbove path e.1) =
      d'.entries.any fun e => isAbove path e.1 := by
    have mapped (l : List (List String × Entry)) : (l.any fun e => isAbove path e.1) =
        (l.map Prod.fst).any (isAbove path) := by
      rw [List.any_map]
      rfl
    rw [mapped, mapped, paths]
  have found := lookup_forall₂ alike path
  unfold Folder.entry?
  rw [above]
  generalize d.entries.lookup path = r at found ⊢
  generalize d'.entries.lookup path = r' at found ⊢
  cases found with
  | some same => exact .some same
  | none =>
    dsimp only
    split
    · exact .some .directory
    · exact .none

lemma Alike.isPassable (alike : d.Alike d') (done path : List String) :
    d.isPassable done path = d'.isPassable done path := by
  induction done, path using Folder.isPassable.induct d with
  | case1 | case2 => rfl
  | case3 done r long ih => rwa [Folder.isPassable, Folder.isPassable] <;> exact long
  | case4 done c r long down stays ih =>
    rwa [Folder.isPassable, Folder.isPassable, if_pos stays, if_pos stays] <;> assumption
  | case5 done c r long down steps inner ih =>
    have same := alike.entry? (c :: done).reverse
    rw [Folder.isPassable, Folder.isPassable, if_neg steps, if_neg steps, inner]
    rw [inner] at same
    generalize d'.entry? (c :: done).reverse = e' at same ⊢
    · cases same with
      | some same =>
        cases same
        exact ih
    all_goals assumption
  | case6 done c r long down steps ends =>
    have same := alike.entry? (c :: done).reverse
    rw [Folder.isPassable, Folder.isPassable, if_neg steps, if_neg steps]
    generalize d.entry? (c :: done).reverse = e at same ends ⊢
    generalize d'.entry? (c :: done).reverse = e' at same ⊢
    · cases same with
      | none => rfl
      | some same =>
        cases same with
        | file => rfl
        | directory => exact absurd rfl ends
    all_goals assumption

lemma Alike.lookup (alike : d.Alike d') (path : String) :
    (d.lookup path).Alike (d'.lookup path) := by
  unfold Folder.lookup
  split
  · exact .missing
  · split
    · split
      · exact .refused
      · exact .missing
    · cases walk [] (components path) with
      | none =>
        dsimp only
        split
        · exact .refused
        · exact .missing
      | some inner =>
        have same := alike.entry? inner
        rw [alike.isPassable]
        dsimp only
        split
        · exact .missing
        · generalize d.entry? inner = e at same ⊢
          generalize d'.entry? inner = e' at same ⊢
          cases same with
          | none => exact .missing
          | some same =>
            cases same with
            | directory => exact .refused
            | file same =>
              dsimp only
              split
              · exact .missing
              · exact .found same

lemma Alike.put (alike : d.Alike d') {e e' : Entry} (same : e.Alike e') (path : String) :
    (d.put path e).Alike (d'.put path e') := by
  unfold Folder.put
  cases walk [] (components path) with
  | none => exact alike
  | some inner =>
    refine .cons ⟨rfl, same⟩ ?_
    exact List.rel_filter (fun x x' same => by simp only [same.1]) alike

end Folder

namespace Command

variable {env env' : Environment}

/-- Settings come alike from files and from the toggle. -/
lemma Environment.Alike.settings (alike : env.Alike env') (path : Option String) :
    OkAlike Config.Alike (settings env path) (settings env' path) := by
  cases path with
  | none => exact .ok (Config.alike_withToggle rfl)
  | some path =>
    have same : OkAlike Config.Alike (Config.loadFile env.toggle path (env.folder.lookup path))
        (Config.loadFile env'.toggle path (env'.folder.lookup path)) :=
      Config.alike_loadFile path (Folder.Alike.lookup alike path)
    unfold Command.settings
    dsimp only
    generalize Config.loadFile env.toggle path (env.folder.lookup path) = r at same ⊢
    generalize Config.loadFile env'.toggle path (env'.folder.lookup path) = r' at same ⊢
    cases same with
    | ok same => exact .ok same
    | error => exact .error

lemma alike_lines (lines : List String) :
    (lines.forM Program.line).Alike Eq (lines.forM Program.line) := by
  induction lines with
  | nil => exact .ret rfl
  | cons s lines ih => exact (alike_line s).bind_eq fun _ => ih

/-- Command lines do the same, whatever the toggle is. -/
theorem alike_program (words : List String) (alike : env.Alike env') :
    (program env words).Alike Eq (program env' words) := by
  unfold program
  cases Invocation.ofWords words with
  | error x =>
    cases x with
    | usage u => exact .ret rfl
    | shown lines => exact (alike_lines lines).bind_eq fun _ => .ret rfl
  | ok i =>
    have same := alike.settings i.config
    dsimp only
    unfold invoke
    generalize settings env i.config = r at same ⊢
    generalize settings env' i.config = r' at same ⊢
    cases same with
    | error => exact .ret rfl
    | @ok c c' same =>
      have kept : ((i.action.work c).keepLogs (isRecorded i.verbose)).Alike Eq
          ((i.action.work c').keepLogs (isRecorded i.verbose)) := by
        refine (alike_work i.action same).keepLogs fun e e' like => ?_
        unfold isRecorded
        rw [like.level]
      refine kept.bind_eq fun r => ?_
      cases r with
      | error c => exact .ret rfl
      | ok => exact .ret rfl

end Command

end SharedSegment
