import Highlight.Program
import Highlight.Proofs.Production.Run

/-!
Runs of the program that end before a document is made. Arguments, settings and tables are looked at
first, then the names of all languages; whatever stops a run there, its files are as they were.
-/

namespace Highlight

variable {σ δ : Type} {host : Host (StateM σ)} {tree : σ → δ} {s : σ}

namespace Production

variable {p : Production} {requested : List Text} {name : Text}

theorem outcome_run_of_unknown (h : FirstOf (· ∉ p.generator.names) (p.names requested) name)
    (host : Host (StateM σ)) (s : σ) :
    outcome (p.run host requested) s = (.error (.unknownLanguage name), s) := by
  rw [run, languages_eq_error h, outcome_error_bind]

end Production

/-- The settings of a run, from the answer that it gets for its settings file. -/
def Settings.ofAnswer : (file : Option Text) → Except PathFault Text → Except Error Settings
  | _, .ok text => read text
  | some path, .error .missing => .error (.inputNotFound path)
  | none, .error .missing => .ok {}
  | _, .error .unusable => .error .inputOutput

theorem Settings.outcome_load (host : Host (StateM σ)) (file : Option Text) (s : σ) :
    outcome (load host file) s =
      (ofAnswer file (host.read (file.getD defaultFile) s).1,
        (host.read (file.getD defaultFile) s).2) := by
  cases file with
  | none =>
      rw [load, Option.getD_none, outcome_lift_bind]
      rcases (host.read defaultFile s).1 with (_ | _) | text <;> rfl
  | some path =>
      rw [load, Option.getD_some, Host.readInput, bind_assoc, outcome_lift_bind]
      rcases (host.read path s).1 with (_ | _) | text <;> rfl

namespace Program

/-- What a run works with, from its arguments and the answer for its settings file. -/
def prepare (a : Arguments) (answer : Except PathFault Text) : Except Error Production :=
  (Settings.ofAnswer a.config answer).bind fun settings =>
    Production.ofSettings (a.applyTo settings)

def failure (e : Error) : Outcome :=
  { code := 1, errors := "Error: ".toList ++ e.message ++ ['\n'] }

/-- How a run ends that does not come to its documents. -/
inductive EndsEarly (host : Host (StateM σ)) (arguments : List Text) (s : σ) : Outcome → Prop
  | refused {fault : ArgumentFault} (h : Arguments.read arguments = .error fault) :
      EndsEarly host arguments s (refuse fault)
  | unprepared {a : Arguments} {e : Error} (h : Arguments.read arguments = .ok a)
      (hprepare : prepare a (host.read (a.config.getD Settings.defaultFile) s).1 = .error e) :
      EndsEarly host arguments s (failure e)
  | listed {a : Arguments} {p : Production} (h : Arguments.read arguments = .ok a)
      (hprepare : prepare a (host.read (a.config.getD Settings.defaultFile) s).1 = .ok p)
      (hlist : a.list = true) :
      EndsEarly host arguments s { code := 0, output := "sbml\nsbss\n".toList }
  | unknown {a : Arguments} {p : Production} {name : Text} (h : Arguments.read arguments = .ok a)
      (hprepare : prepare a (host.read (a.config.getD Settings.defaultFile) s).1 = .ok p)
      (hlist : a.list = false)
      (hname : FirstOf (· ∉ ["sbml".toList, "sbss".toList]) (p.names a.requested) name) :
      EndsEarly host arguments s (failure (.unknownLanguage name))

def finish : Except Error Text → Outcome
  | .ok output => { code := 0, output := output }
  | .error e => failure e

theorem run_of_serve {arguments : List Text} {a : Arguments} {result : Except Error Text} {s' : σ}
    (h : Arguments.read arguments = .ok a)
    (hserve : outcome (serve (host.upTo a.level) a) s = (result, s')) :
    run host arguments s = (finish result, s') := by
  replace hserve : (serve (host.upTo a.level) a).run.run s = _ := hserve
  simp only [run, h]
  change StateT.run (_ >>= _) s = _
  rw [StateT.run_bind, hserve]
  cases result <;> rfl

/-- Until its settings are accepted a run does no more than read a file. -/
theorem outcome_serve (host : Host (StateM σ)) (a : Arguments) (s : σ) :
    outcome (serve host a) s =
      outcome (liftM (prepare a (host.read (a.config.getD Settings.defaultFile) s).1) >>= fun p =>
        if a.list then return p.generator.names.flatMap (· ++ ['\n'])
        else do
          discard (p.run host a.requested)
          return []) (host.read (a.config.getD Settings.defaultFile) s).2 := by
  rw [serve, outcome_bind, Settings.outcome_load, prepare]
  cases Settings.ofAnswer a.config (host.read (a.config.getD Settings.defaultFile) s).1 with
  | error e => exact (outcome_error_bind e _ _).symm
  | ok settings => rw [Except.bind]

theorem outcome_discard_of_error {α : Type} {act : ExceptT Error (StateM σ) α} {e : Error} {s' : σ}
    (h : outcome act s = (.error e, s')) : outcome (discard act) s = (.error e, s') := by
  have hmap : discard act = Function.const α PUnit.unit <$> act := by
    rw [Functor.discard]
    rfl
  rw [hmap, map_eq_pure_bind, outcome_bind, h]

theorem names_of_prepare {a : Arguments} {answer : Except PathFault Text} {p : Production}
    (h : prepare a answer = .ok p) : p.generator.names = ["sbml".toList, "sbss".toList] := by
  obtain ⟨settings, -, hmade⟩ := bind_eq_ok_iff.1 h
  exact Production.names_ofSettings hmade

section Run

variable {arguments : List Text} {a : Arguments} {p : Production} {result : Outcome}

/-- Every early end is reached, with the files as they were. -/
theorem EndsEarly.run_eq (hread : ∀ path s, tree (host.read path s).2 = tree s)
    (h : EndsEarly host arguments s result) :
    ∃ s', run host arguments s = (result, s') ∧ tree s' = tree s := by
  cases h with
  | refused h =>
      refine ⟨s, ?_, rfl⟩
      rw [run, h]
      rfl
  | @unprepared a e h hprepare =>
      have hserve : outcome (serve (host.upTo a.level) a) s =
          (.error e, (host.read (a.config.getD Settings.defaultFile) s).2) := by
        rw [outcome_serve, Host.read_upTo, hprepare, outcome_error_bind]
      exact ⟨_, run_of_serve h hserve, hread _ _⟩
  | @listed a p h hprepare hlist =>
      have hserve : outcome (serve (host.upTo a.level) a) s =
          (.ok "sbml\nsbss\n".toList, (host.read (a.config.getD Settings.defaultFile) s).2) := by
        rw [outcome_serve, Host.read_upTo, hprepare, outcome_ok_bind, if_pos hlist,
          names_of_prepare hprepare]
        rfl
      exact ⟨_, run_of_serve h hserve, hread _ _⟩
  | @unknown a p name h hprepare hlist hname =>
      have hlist' : ¬a.list = true := by simp [hlist]
      rw [← names_of_prepare hprepare] at hname
      have hrun := Production.outcome_run_of_unknown hname (host.upTo a.level)
        (host.read (a.config.getD Settings.defaultFile) s).2
      have hserve : outcome (serve (host.upTo a.level) a) s =
          (.error (.unknownLanguage name),
            (host.read (a.config.getD Settings.defaultFile) s).2) := by
        rw [outcome_serve, Host.read_upTo, hprepare, outcome_ok_bind, if_neg hlist',
          outcome_bind, outcome_discard_of_error hrun]
      exact ⟨_, run_of_serve h hserve, hread _ _⟩

theorem exists_endsEarly_iff : (∃ result, EndsEarly host arguments s result) ↔
    ∀ a p, Arguments.read arguments = .ok a →
      prepare a (host.read (a.config.getD Settings.defaultFile) s).1 = .ok p →
        a.list = true ∨ ∃ name ∈ p.names a.requested, name ∉ ["sbml".toList, "sbss".toList] := by
  constructor
  · rintro ⟨result, hends⟩ a p h hprepare
    cases hends with
    | refused h' => cases h.symm.trans h'
    | unprepared h' hfailed =>
        cases h.symm.trans h'
        cases hprepare.symm.trans hfailed
    | listed h' hprepare' hlist =>
        cases h.symm.trans h'
        exact .inl hlist
    | unknown h' hprepare' hlist hname =>
        cases h.symm.trans h'
        cases hprepare.symm.trans hprepare'
        obtain ⟨before, after, hnames, hunknown, -⟩ := hname
        exact .inr ⟨_, by simp [hnames], hunknown⟩
  · intro hall
    cases h : Arguments.read arguments with
    | error fault => exact ⟨_, .refused h⟩
    | ok a =>
        cases hprepare : prepare a (host.read (a.config.getD Settings.defaultFile) s).1 with
        | error e => exact ⟨_, .unprepared h hprepare⟩
        | ok p =>
            cases hlist : a.list with
            | true => exact ⟨_, .listed h hprepare hlist⟩
            | false =>
                obtain hlisted | hunknown := hall a p h hprepare
                · cases hlisted.symm.trans hlist
                · obtain ⟨name, hname⟩ := exists_firstOf hunknown
                  exact ⟨_, .unknown h hprepare hlist hname⟩

theorem EndsEarly.code_eq_zero_iff (h : EndsEarly host arguments s result) : result.code = 0 ↔
    Arguments.read arguments = .error .help ∨ Arguments.read arguments = .error .version ∨
      ∃ a p, Arguments.read arguments = .ok a ∧ a.list = true ∧
        prepare a (host.read (a.config.getD Settings.defaultFile) s).1 = .ok p := by
  cases h with
  | @refused fault h =>
      rw [h]
      cases fault <;> simp [refuse]
  | unprepared h hprepare => simp [failure, h, hprepare]
  | listed h hprepare hlist =>
      exact iff_of_true rfl (.inr (.inr ⟨_, _, h, hlist, hprepare⟩))
  | unknown h hprepare hlist hname => simp [failure, h, hlist]

end Run

/-- A run that ends before its documents leaves everything as it is, wherever a read does. It goes
on only with accepted arguments and settings, when it is not asked for a list and knows every name;
the first name that it does not know is the error, on its own. -/
theorem run_untouched (hread : ∀ path s, tree (host.read path s).2 = tree s)
    (arguments : List Text) (s : σ) :
    (∀ result, EndsEarly host arguments s result →
      ∃ s', run host arguments s = (result, s') ∧ tree s' = tree s) ∧
    ((∃ result, EndsEarly host arguments s result) ↔
      ∀ a p, Arguments.read arguments = .ok a →
        prepare a (host.read (a.config.getD Settings.defaultFile) s).1 = .ok p →
          a.list = true ∨ ∃ name ∈ p.names a.requested, name ∉ ["sbml".toList, "sbss".toList]) ∧
    (∀ result, EndsEarly host arguments s result →
      (result.code = 0 ↔ Arguments.read arguments = .error .help ∨
        Arguments.read arguments = .error .version ∨
          ∃ a p, Arguments.read arguments = .ok a ∧ a.list = true ∧
            prepare a (host.read (a.config.getD Settings.defaultFile) s).1 = .ok p)) ∧
    ∀ (p : Production) (requested : List Text),
      (∃ name ∈ p.names requested, name ∉ p.generator.names) →
        ∃ name, FirstOf (· ∉ p.generator.names) (p.names requested) name ∧
          outcome (p.run host requested) s = (.error (.unknownLanguage name), s) := by
  refine ⟨fun result h => h.run_eq hread, exists_endsEarly_iff, fun result h => h.code_eq_zero_iff,
    fun p requested h => ?_⟩
  obtain ⟨name, hname⟩ := exists_firstOf h
  exact ⟨name, hname, Production.outcome_run_of_unknown hname host s⟩

/-- A file below the root that describes no settings, and an unknown name between known ones. -/
theorem run_untouched_small :
    (∃ s', run Session.host ["-c".toList, "/t/b.tmLanguage.template.json".toList]
        ⟨Production.smallTree, []⟩ = (failure .settings, s') ∧
      s'.disk = Production.smallTree) ∧
    ∃ name, FirstOf (· ∉ [['a'], ['b']]) [['a'], ['x'], ['b'], ['y']] name ∧
      outcome (Production.small.run Session.host [['a'], ['x'], ['b'], ['y']]) ⟨.empty, []⟩ =
        (.error (.unknownLanguage name), ⟨.empty, []⟩) := by
  have hkept (path : Text) (s : Session) : (Session.host.read path s).2.disk = s.disk := rfl
  obtain ⟨hends, -⟩ := run_untouched hkept ["-c".toList, "/t/b.tmLanguage.template.json".toList]
    ⟨Production.smallTree, []⟩
  obtain ⟨-, -, -, hunknown⟩ := run_untouched hkept [] ⟨.empty, []⟩
  have hread : Arguments.read ["-c".toList, "/t/b.tmLanguage.template.json".toList] =
      .ok { config := some "/t/b.tmLanguage.template.json".toList } :=
    ok_of_toOption (by decide +kernel)
  have hprepare : prepare { config := some "/t/b.tmLanguage.template.json".toList }
      (Session.host.read "/t/b.tmLanguage.template.json".toList ⟨Production.smallTree, []⟩).1 =
        .error .settings := by
    have hfile : (Session.host.read "/t/b.tmLanguage.template.json".toList
        ⟨Production.smallTree, []⟩).1 = .ok ['2'] := ok_of_toOption (by decide +kernel)
    have hsettings : Settings.read ['2'] = .error .settings := by decide +kernel
    rw [hfile, prepare, Settings.ofAnswer, hsettings]
    rfl
  refine ⟨hends _ (.unprepared hread hprepare), ?_⟩
  have hnames : Production.small.generator.names = [['a'], ['b']] := rfl
  rw [← hnames]
  exact hunknown Production.small [['a'], ['x'], ['b'], ['y']] ⟨['x'], by decide, by decide⟩

end Program

end Highlight
