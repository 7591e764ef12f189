import TapeMachine.CommandLine.Arguments
import TapeMachine.Proofs.Except
/-!
# What a command line gives

The arguments that a usage reads fit it: whatever is given belongs to an option of the usage, and it has the shape that
the option asks for. Two lone dashes attached to an option stand for an empty list, whatever it asks for.

* `Wish.Gives` : the values that an option can have;
* `Word.BelongsTo`, `Use.Fits`, `Cluster.Fits` : words and uses of options;
* `Usage.gives_of_read` : **everything that is given has the shape that its option asks for.**
-/

namespace TapeMachine.CommandLine

variable {u : Usage} {spec : OptionSpec} {texts : List String} {words : List Word} {word : Word} {use : Use}
  {arguments : Arguments} {text : String} {cs : List Char}

/-! ## 1. Words -/

/-- Whether a word is no option, or one of the usage. -/
def Word.BelongsTo (u : Usage) (word : Word) : Prop :=
  ∀ spec attached, word = .option spec attached → spec ∈ u.options

theorem Usage.mem_of_spellings {entry : String × OptionSpec} (h : entry ∈ u.spellings) : entry.2 ∈ u.options := by
  obtain ⟨o, ho, hentry⟩ := List.mem_flatMap.mp h
  obtain ⟨_, _, rfl⟩ := List.mem_map.mp hentry
  exact ho

theorem Usage.mem_of_find? (h : u.find? text = some spec) : spec ∈ u.options := by
  obtain ⟨entry, hentry, rfl⟩ := Option.map_eq_some_iff.mp h
  exact mem_of_spellings (List.mem_of_find?_eq_some hentry)

theorem Usage.belongsTo_of_candidates {entry : String × Word} (h : entry ∈ u.candidates cs) : entry.2.BelongsTo u := by
  obtain ⟨known, hknown, attached, hword⟩ : ∃ known ∈ u.spellings, ∃ attached, entry.2 = .option known.2 attached := by
    unfold candidates at h
    split at h
    · obtain ⟨known, hknown, hentry⟩ := List.mem_filterMap.mp h
      refine ⟨known, hknown, ?_⟩
      grind
    · unfold longCandidates at h
      rcases hcut : cutAtEquals cs with ⟨front, attached⟩
      rw [hcut] at h
      obtain ⟨known, hknown, hentry⟩ := List.mem_filterMap.mp h
      refine ⟨known, hknown, attached, ?_⟩
      grind
  intro spec attached' heq
  rw [hword] at heq
  cases heq
  exact mem_of_spellings hknown

theorem Usage.belongsTo_of_guess (h : u.guess cs = .ok word) : word.BelongsTo u := by
  unfold guess at h
  split at h
  · rename_i spelling _ hcandidates
    cases h
    have hmem : (spelling, word) ∈ u.candidates cs := by
      rw [hcandidates]
      exact List.mem_singleton_self _
    exact belongsTo_of_candidates hmem
  · cases h
    intro spec attached hword
    split at hword <;> cases hword
  · cases h

theorem Usage.belongsTo_of_word (h : u.word text = .ok word) : word.BelongsTo u := by
  unfold Usage.word at h
  split at h
  · unfold dashed at h
    split at h
    · rename_i hfind
      cases h
      intro spec attached hword
      cases hword
      exact mem_of_find? hfind
    · split at h
      · cases h
        exact fun _ _ hword => by cases hword
      · dsimp only at h
        split at h
        · rename_i hfind
          cases h
          intro spec attached hword
          cases hword
          exact mem_of_find? hfind
        · exact belongsTo_of_guess h
  · cases h
    exact fun _ _ hword => by cases hword

/-- **Every option on a command line is one of the usage.** -/
theorem Usage.belongsTo_of_words (h : u.words texts = .ok words) : ∀ word ∈ words, word.BelongsTo u := by
  induction texts generalizing words with
  | nil =>
      cases h
      exact fun word hword => by cases hword
  | cons text rest ih =>
      rw [Usage.words] at h
      split at h
      · cases h
        intro word hword spec attached heq
        rcases List.mem_cons.mp hword with rfl | hword
        · cases heq
        · obtain ⟨_, _, rfl⟩ := List.mem_map.mp hword
          cases heq
      · obtain ⟨first, hfirst, h⟩ := exists_of_bind_eq_ok h
        obtain ⟨others, hothers, h⟩ := exists_of_bind_eq_ok h
        cases h
        exact List.forall_mem_cons.mpr ⟨belongsTo_of_word hfirst, ih hothers⟩

/-! ## 2. Uses of options -/

/-- Whether a value has the shape that an option asks for. -/
def Wish.Gives (value : Json) : Wish → Prop
  | .presence => value = .bool true
  | .text => value = .arr [] ∨ ∃ s, value = .str s
  | .wholeNumber => value = .arr [] ∨ ∃ n, value = .int n
  | .help => False

/-- Whether a use is that of an option of the usage, with a text exactly when the option takes one. -/
structure Use.Fits (u : Usage) (use : Use) : Prop where
  option : use.option ∈ u.options
  value : use.value.isSome = use.option.wish.takesValue

/-- Whether something that is given belongs to an option of the usage and has the shape that it asks for. -/
def Usage.Gives (u : Usage) (entry : String × Json) : Prop :=
  ∃ o ∈ u.options, entry.1 = o.name ∧ o.wish.Gives entry.2

/-- The value that a text stands for has the shape that an option asks for which takes one. -/
theorem Wish.gives_of_value {wish : Wish} {value : Json} (htakes : wish.takesValue = true)
    (h : wish.value text = some value) : wish.Gives value := by
  unfold Wish.value at h
  cases wish with
  | presence => cases htakes
  | help => cases htakes
  | text =>
      split at h
      · exact .inl (Option.some.inj h).symm
      · exact .inr ⟨text, (Option.some.inj h).symm⟩
  | wholeNumber =>
      split at h
      · exact .inl (Option.some.inj h).symm
      · obtain ⟨n, _, hn⟩ := Option.map_eq_some_iff.mp h
        exact .inr ⟨n, hn.symm⟩

/-- What a use gives. -/
theorem Use.Fits.gives {entry : String × Json} (h : use.Fits u) (hperform : use.perform = .ok entry) :
    u.Gives entry := by
  refine ⟨use.option, h.option, ?_⟩
  have hvalue := h.value
  unfold Use.perform at hperform
  split at hperform
  · cases hperform
  · rename_i text htext _
    rw [htext] at hvalue
    split at hperform
    · rename_i value hgiven
      cases hperform
      exact ⟨rfl, Wish.gives_of_value hvalue.symm hgiven⟩
    · cases hperform
  · rename_i htext hhelp
    rw [htext] at hvalue
    cases hperform
    refine ⟨rfl, ?_⟩
    cases hwish : use.option.wish with
    | presence => rfl
    | help => exact (hhelp hwish).elim
    | text => rw [hwish] at hvalue; cases hvalue
    | wholeNumber => rw [hwish] at hvalue; cases hvalue

/-- Whether the uses of a cluster fit, and the option, if any, that still waits for its value. -/
structure Cluster.Fits (u : Usage) (cluster : Cluster) : Prop where
  uses : ∀ use ∈ cluster.uses, use.Fits u
  waits : ∀ o, cluster.open? = some o → o ∈ u.options ∧ o.wish.takesValue = true

theorem fits_alone (hspec : spec ∈ u.options) : (alone spec).Fits u := by
  unfold alone
  split
  · rename_i htakes
    refine ⟨fun use huse => (by cases huse), fun o ho => ?_⟩
    cases ho
    exact ⟨hspec, htakes⟩
  · rename_i htakes
    refine ⟨fun use huse => ?_, fun o ho => by cases ho⟩
    rw [List.mem_singleton.mp huse]
    exact ⟨hspec, by simpa using htakes⟩

theorem Cluster.Fits.cons {cluster : Cluster} (h : cluster.Fits u) (huse : use.Fits u) :
    Cluster.Fits u { cluster with uses := use :: cluster.uses } :=
  ⟨fun other hother => (List.mem_cons.mp hother).elim (fun heq => heq ▸ huse) (h.uses other), h.waits⟩

/-- A value that is attached belongs to an option that takes one. -/
theorem fits_attached (hspec : spec ∈ u.options) (htakes : spec.wish.takesValue = true) (text : String) :
    Cluster.Fits u { uses := [⟨spec, some text⟩] } :=
  ⟨fun use huse => by rw [List.mem_singleton.mp huse]; exact ⟨hspec, htakes.symm⟩, fun o ho => by cases ho⟩

theorem fits_withShort (hspec : spec ∈ u.options) {cluster : Cluster} (h : withShort u spec cs = .ok cluster) :
    cluster.Fits u := by
  fun_induction withShort u spec cs generalizing cluster with
  | case1 spec cs htakes =>
      cases h
      exact fits_attached hspec htakes _
  | case2 => cases h
  | case3 => cases h
  | case4 spec htakes c next hfind =>
      cases h
      exact (fits_alone (Usage.mem_of_find? hfind)).cons ⟨hspec, by simpa using htakes⟩
  | case5 spec htakes c rest hrest next hfind ih =>
      obtain ⟨inner, hinner, h⟩ := exists_of_bind_eq_ok h
      cases h
      exact (ih (Usage.mem_of_find? hfind) hinner).cons ⟨hspec, by simpa using htakes⟩

theorem fits_cluster (hspec : spec ∈ u.options) {attached : Option Attached} {cluster : Cluster}
    (h : CommandLine.cluster u spec attached = .ok cluster) : cluster.Fits u := by
  unfold CommandLine.cluster at h
  split at h
  · cases h
    exact fits_alone hspec
  · exact fits_withShort hspec h
  · unfold withLong at h
    split at h
    · rename_i htakes
      cases h
      exact fits_attached hspec htakes _
    · cases h

/-! ## 3. Arguments -/

theorem Usage.gives_uses {uses : List Use} {given : List (String × Json)} (huses : ∀ use ∈ uses, use.Fits u)
    (h : uses.mapM Use.perform = .ok given) : ∀ entry ∈ given, u.Gives entry := by
  induction uses generalizing given with
  | nil =>
      cases h
      exact fun entry hentry => by cases hentry
  | cons use uses ih =>
      rw [List.mapM_cons] at h
      obtain ⟨first, hfirst, h⟩ := exists_of_bind_eq_ok h
      obtain ⟨others, hothers, h⟩ := exists_of_bind_eq_ok h
      cases h
      obtain ⟨huse, hrest⟩ := List.forall_mem_cons.mp huses
      exact List.forall_mem_cons.mpr ⟨huse.gives hfirst, ih hrest hothers⟩

theorem Usage.gives_followedBy {uses : List Use} {more : Except Stop Arguments} (huses : ∀ use ∈ uses, use.Fits u)
    (hmore : ∀ a, more = .ok a → ∀ entry ∈ a.given, u.Gives entry) (h : followedBy uses more = .ok arguments) :
    ∀ entry ∈ arguments.given, u.Gives entry := by
  obtain ⟨given, hgiven, h⟩ := exists_of_bind_eq_ok h
  obtain ⟨rest, hrest, h⟩ := exists_of_bind_eq_ok h
  cases h
  exact List.forall_mem_append.mpr ⟨gives_uses huses hgiven, hmore rest hrest⟩

/-- A cluster with the text that it waits for. -/
theorem Cluster.Fits.closedBy {cluster : Cluster} (h : cluster.Fits u) (text : String) :
    ∀ use ∈ cluster.closedBy text, use.Fits u := by
  intro use huse
  rcases List.mem_append.mp huse with huse | huse
  · exact h.uses use huse
  · obtain ⟨o, ho, rfl⟩ := Option.map_eq_some_iff.mp (Option.mem_toList.mp huse)
    obtain ⟨hmem, htakes⟩ := h.waits o ho
    exact ⟨hmem, htakes.symm⟩

/-- What gives nothing more leaves what is given as it is. -/
theorem Usage.gives_kept {x : Except Stop Arguments} {f : Arguments → Arguments} (hf : ∀ a, (f a).given = a.given)
    (hx : ∀ {a}, x = .ok a → ∀ entry ∈ a.given, u.Gives entry) (h : (do return f (← x)) = .ok arguments) :
    ∀ entry ∈ arguments.given, u.Gives entry := by
  obtain ⟨a, ha, h⟩ := exists_of_bind_eq_ok h
  cases h
  rw [hf]
  exact hx ha

theorem Usage.gives_walk {waiting : List String} (hwords : ∀ word ∈ words, word.BelongsTo u)
    (h : walk u waiting words = .ok arguments) : ∀ entry ∈ arguments.given, u.Gives entry := by
  fun_induction walk u waiting words generalizing arguments with
  | case1 =>
      cases h
      exact fun entry hentry => by cases hentry
  | case2 name waiting text rest ih =>
      have hrest := (List.forall_mem_cons.mp hwords).2
      have hdropped : ∀ word ∈ dropSeparator rest, word.BelongsTo u := by
        unfold dropSeparator
        split
        · exact (List.forall_mem_cons.mp hrest).2
        · exact hrest
      exact gives_kept (f := (·.withOperand name text)) (fun _ => rfl) (ih hdropped) h
  | case3 name waiting text rest ih =>
      have hrest := (List.forall_mem_cons.mp (List.forall_mem_cons.mp hwords).2).2
      exact gives_kept (f := (·.withOperand name text)) (fun _ => rfl) (ih hrest) h
  | case4 text rest ih =>
      exact gives_kept (f := (·.withExtra text)) (fun _ => rfl) (ih (List.forall_mem_cons.mp hwords).2) h
  | case5 waiting rest _ ih =>
      exact gives_kept (f := (·.withExtra "--")) (fun _ => rfl) (ih (List.forall_mem_cons.mp hwords).2) h
  | case6 waiting text rest ih =>
      exact gives_kept (f := (·.withExtra text)) (fun _ => rfl) (ih (List.forall_mem_cons.mp hwords).2) h
  | case7 waiting spec attached rest ih =>
      obtain ⟨hfirst, hrest⟩ := List.forall_mem_cons.mp hwords
      obtain ⟨cluster, hcluster, hmatch⟩ := exists_of_bind_eq_ok h
      have hfits : cluster.Fits u := fits_cluster (hfirst spec attached rfl) (mapError_eq_ok_iff.mp hcluster)
      have hmore := ih cluster
      split at hmatch
      · -- the option waits for nothing
        rename_i hopen
        rw [hopen] at hmore
        exact gives_followedBy hfits.uses (fun a ha => hmore hrest ha) hmatch
      · -- it gets the next word
        rename_i hopen
        rw [hopen] at hmore
        exact gives_followedBy (hfits.closedBy _) (fun a ha => hmore (List.forall_mem_cons.mp hrest).2 ha) hmatch
      · cases hmatch

/-- **Everything that is given has the shape that its option asks for.** -/
theorem Usage.gives_of_read (h : u.read texts = .ok arguments) : ∀ entry ∈ arguments.given, u.Gives entry := by
  obtain ⟨words, hwords, h⟩ := exists_of_bind_eq_ok h
  obtain ⟨found, hfound, h⟩ := exists_of_bind_eq_ok h
  have hsame : found = arguments := by
    dsimp only at h
    split at h
    · cases h
    · split at h
      · cases h
      · exact Except.ok.inj h
  rw [← hsame]
  exact gives_walk (belongsTo_of_words (mapError_eq_ok_iff.mp hwords)) hfound

end TapeMachine.CommandLine
