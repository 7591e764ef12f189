import TapeMachine.Program.Ending
/-!
# How jobs end

A job starts from files and a time of the clock, and what has been shown before makes no difference to it. It ends
with a value or an error, leaves files, and has shown some more. Jobs that are done one after the other compose: each
starts from the files that the one before has left, and an error ends all of them.

* `Job.Ends` : **how a job ends**, with the files that it leaves and what it has shown;
* `Job.Leaves`, `Job.Shows` : the same when it does not matter what was shown, and of a job that leaves all files as
  they are;
* `Job.Ends.bind`, `Job.Ends.bind_error` : **one job after the other**;
* `Job.ends_ofExcept_bind`, `Job.ends_askFiles_bind` : the parts of a computation as parts of a job;
* `Job.Ends.reporting_error`, `Job.Ends.reporting_unexpected` : an expected error is shown, and the program goes on; any
  other one ends it.
-/

namespace TapeMachine.Job

variable {α β : Type} {job : Job α} {next : α → Job β} {files middle after : FileTree} {clock : Timestamp}
  {result : Except Error β} {a : α} {b : β} {e : Error} {shown more : List Event}

/-! ## 1. One job after the other -/

/-- **How a job ends**, whatever has been shown before. -/
def Ends (job : Job α) (files : FileTree) (clock : Timestamp) (result : Except Error α) (after : FileTree)
    (shown : List Event) : Prop :=
  ∀ events, job.start ⟨files, clock, events⟩ = (result, ⟨after, clock, events ++ shown.toArray⟩)

theorem start_bind (w : Workspace) : (job >>= next).start w =
    match job.start w with
    | (.ok a, w) => (next a).start w
    | (.error e, w) => (.error e, w) := by
  unfold start
  rw [ExceptT.run_bind, StateT.run_bind]
  rcases StateT.run (ExceptT.run job) w with ⟨x, w⟩
  cases x <;> rfl

theorem append_shown (events : Array Event) :
    events ++ shown.toArray ++ more.toArray = events ++ (shown ++ more).toArray := by
  simp

/-- **The next job starts where the first one has ended.** -/
theorem Ends.bind (h : job.Ends files clock (.ok a) middle shown)
    (hnext : (next a).Ends middle clock result after more) :
    (job >>= next).Ends files clock result after (shown ++ more) := by
  intro events
  rw [start_bind, h events]
  show (next a).start _ = _
  rw [hnext, append_shown]

/-- A job that shows nothing in front of another one. -/
theorem Ends.andThen (h : job.Ends files clock (.ok a) middle [])
    (hnext : (next a).Ends middle clock result after shown) : (job >>= next).Ends files clock result after shown :=
  h.bind hnext

/-- **An error ends all jobs that would follow.** -/
theorem Ends.bind_error (h : job.Ends files clock (.error e) after shown) :
    (job >>= next).Ends files clock (.error e) after shown := by
  intro events
  rw [start_bind, h events]

theorem ends_pure : (pure a : Job α).Ends files clock (.ok a) files [] :=
  fun _ => rfl

theorem Ends.map {x : Except Error α} (h : job.Ends files clock x after shown) (f : α → β) :
    (f <$> job).Ends files clock (x.map f) after shown := by
  rw [map_eq_pure_bind]
  cases x with
  | error e => exact h.bind_error
  | ok a => exact List.append_nil shown ▸ h.bind ends_pure

theorem ends_ofExcept (x : Except Error α) : (ofExcept x).Ends files clock x files [] := by
  cases x <;> exact fun _ => rfl

theorem ends_ok {x : Except Error α} (h : x = .ok a) : (ofExcept x).Ends files clock (.ok a) files [] := by
  rw [h]
  exact ends_ofExcept _

theorem ends_error {x : Except Error α} (h : x = .error e) : (ofExcept x).Ends files clock (.error e) files [] := by
  rw [h]
  exact ends_ofExcept _

theorem ends_emit (event : Event) : (emit event).Ends files clock (.ok ()) files [event] :=
  fun _ => rfl

theorem ends_now : now.Ends files clock (.ok clock) files [] :=
  fun _ => rfl

theorem ends_files : Job.files.Ends files clock (.ok files) files [] :=
  fun _ => rfl

theorem ends_setFiles : (setFiles after).Ends files clock (.ok ()) after [] :=
  fun _ => rfl

/-- A question about the files leaves them as they are. -/
theorem ends_askFiles (f : FileTree → Except FileError α) :
    (askFiles f).Ends files clock ((f files).mapError .file) files [] := by
  unfold askFiles
  exact ends_files.bind (ends_ofExcept _)

theorem ends_asked {f : FileTree → Except FileError α} (h : f files = .ok a) :
    (askFiles f).Ends files clock (.ok a) files [] := by
  unfold askFiles
  refine ends_files.bind (ends_ok ?_)
  rw [h]
  rfl

theorem ends_changeFiles {f : FileTree → Except FileError FileTree} (h : f files = .ok after) :
    (changeFiles f).Ends files clock (.ok ()) after [] := by
  unfold changeFiles
  exact (ends_asked h).bind ends_setFiles

/-- A change that may stop half-way leaves what it has done. -/
theorem ends_tried (f : FileTree → FileTree × Except FileError Unit) :
    (tryFiles f).Ends files clock ((f files).2.mapError .file) (f files).1 [] := by
  unfold tryFiles
  exact ends_files.bind (ends_setFiles.bind (ends_ofExcept _))

theorem ends_tryFiles {f : FileTree → FileTree × Except FileError Unit} (h : f files = (after, .ok ())) :
    (tryFiles f).Ends files clock (.ok ()) after [] := by
  have htried : (tryFiles f).Ends files clock ((f files).2.mapError .file) (f files).1 [] := ends_tried f
  rwa [h] at htried

theorem ends_tryFiles_error {f : FileTree → FileTree × Except FileError Unit} {e : FileError}
    (h : f files = (after, .error e)) : (tryFiles f).Ends files clock (.error (.file e)) after [] := by
  have htried : (tryFiles f).Ends files clock ((f files).2.mapError .file) (f files).1 [] := ends_tried f
  rwa [h] at htried

/-- Showing text as lines of plain output. -/
theorem ends_say (text : String) : (say text).Ends files clock (.ok ()) files ((Text.shownLines text).map .line) := by
  unfold say
  induction Text.shownLines text with
  | nil => exact ends_pure
  | cons line lines ih => exact (ends_emit (.line line)).bind ih

/-- Showing a text in markup. -/
theorem ends_print {markup text : String} (h : Markup.render markup = .ok text) :
    (print markup).Ends files clock (.ok ()) files [.print text] := by
  have hseen : (seen markup).Ends files clock (.ok text) files [] := by
    unfold seen
    rw [h]
    exact ends_ofExcept _
  exact hseen.bind (ends_emit _)

/-- A text that is no markup is not shown. -/
theorem ends_print_error {markup : String} {e : MarkupError} (h : Markup.render markup = .error e) :
    (print markup).Ends files clock (.error (.markup e)) files [] := by
  have hseen : (seen markup).Ends files clock (.error (.markup e)) files [] := by
    unfold seen
    rw [h]
    exact ends_ofExcept _
  exact hseen.bind_error

section Parts

variable {γ : Type} {x : Except Error α} {f : α → Except Error γ} {k : γ → Job β}

/-- A part of a computation in front of a job is a part of the job. -/
theorem ends_ofExcept_bind (h : (ofExcept (x >>= f) >>= k).Ends files clock result after shown)
    (hnext : ∀ a, (ofExcept (f a) >>= k).Ends files clock result after shown →
      (next a).Ends files clock result after shown) :
    (ofExcept x >>= next).Ends files clock result after shown := by
  cases x with
  | error e => exact h
  | ok a => exact hnext a h

/-- A question about the files is a part of a computation with these files. -/
theorem ends_askFiles_bind {ask : FileTree → Except FileError α}
    (h : (ofExcept ((ask files).mapError .file >>= f) >>= k).Ends files clock result after shown)
    (hnext : ∀ a, (ofExcept (f a) >>= k).Ends files clock result after shown →
      (next a).Ends files clock result after shown) :
    (askFiles ask >>= next).Ends files clock result after shown := by
  unfold askFiles
  rw [bind_assoc]
  exact ends_files.andThen (ends_ofExcept_bind h hnext)

end Parts

/-- A job ends in one way only. -/
theorem Ends.unique {result' : Except Error β} {job : Job β} {after' : FileTree}
    (h : job.Ends files clock result after shown) (h' : job.Ends files clock result' after' more) :
    result = result' ∧ after = after' ∧ shown = more := by
  have heq := (h #[]).symm.trans (h' #[])
  simp only [Prod.mk.injEq, Workspace.mk.injEq, true_and, Array.empty_append] at heq
  exact ⟨heq.1, heq.2.1, congrArg Array.toList heq.2.2⟩

/-- A job that ends has started so when nothing had been shown before. -/
theorem Ends.start_eq {result : Except Error β} {job : Job β} (h : job.Ends files clock result after shown) :
    (job.start ⟨files, clock, #[]⟩).1 = result ∧ (job.start ⟨files, clock, #[]⟩).2.files = after := by
  rw [h #[]]
  exact ⟨rfl, rfl⟩

/-! ## 2. Jobs whatever they show -/

/-- How a job ends, when it does not matter what it shows. -/
def Leaves (job : Job α) (files : FileTree) (clock : Timestamp) (result : Except Error α) (after : FileTree) : Prop :=
  ∃ shown, job.Ends files clock result after shown

theorem Ends.leaves {result : Except Error α} (h : job.Ends files clock result after shown) :
    job.Leaves files clock result after :=
  ⟨shown, h⟩

theorem Leaves.bind (h : job.Leaves files clock (.ok a) middle) (hnext : (next a).Leaves middle clock result after) :
    (job >>= next).Leaves files clock result after := by
  obtain ⟨_, h⟩ := h
  obtain ⟨_, hnext⟩ := hnext
  exact ⟨_, h.bind hnext⟩

theorem Leaves.bind_error (h : job.Leaves files clock (.error e) after) :
    (job >>= next).Leaves files clock (.error e) after := by
  obtain ⟨_, h⟩ := h
  exact ⟨_, h.bind_error⟩

theorem Leaves.unique {result' : Except Error β} {job : Job β} {after' : FileTree}
    (h : job.Leaves files clock result after) (h' : job.Leaves files clock result' after') :
    result = result' ∧ after = after' := by
  obtain ⟨_, h⟩ := h
  obtain ⟨_, h'⟩ := h'
  obtain ⟨hresult, hafter, _⟩ := h.unique h'
  exact ⟨hresult, hafter⟩

/-- Whether a job gives a value and leaves all files as they are. -/
def Shows (job : Job α) (a : α) : Prop :=
  ∀ files clock, job.Leaves files clock (.ok a) files

theorem Shows.bind (h : job.Shows a) (hnext : (next a).Shows b) : (job >>= next).Shows b :=
  fun files clock => (h files clock).bind (hnext files clock)

theorem shows_pure : (pure a : Job α).Shows a :=
  fun _ _ => ends_pure.leaves

theorem shows_emit (event : Event) : (emit event).Shows () :=
  fun _ _ => (ends_emit event).leaves

theorem shows_ofExcept {x : Except Error α} (h : x = .ok a) : (ofExcept x).Shows a := by
  rw [h]
  exact fun _ _ => (ends_ofExcept _).leaves

theorem shows_forM {ι : Type} {f : ι → Job PUnit} {xs : List ι} (h : ∀ x ∈ xs, (f x).Shows ()) :
    (xs.forM f).Shows () := by
  induction xs with
  | nil => exact shows_pure
  | cons x xs ih => exact (h x (by simp)).bind (ih fun y hy => h y (by simp [hy]))

theorem shows_say (text : String) : (say text).Shows () :=
  fun _ _ => (ends_say text).leaves

theorem shows_print {markup text : String} (h : Markup.render markup = .ok text) : (print markup).Shows () :=
  fun _ _ => (ends_print h).leaves

/-! ## 3. Expected errors -/

section Reporting

variable {isExpected : Error → Bool} {lead : String} {failed : α}

theorem start_tryCatch (handler : Error → Job α) (w : Workspace) : (tryCatch job handler).start w =
    match job.start w with
    | (.ok a, w) => (.ok a, w)
    | (.error e, w) => (handler e).start w := by
  unfold start
  rw [ExceptT.run_tryCatch, StateT.run_bind]
  rcases StateT.run (ExceptT.run job) w with ⟨x, w⟩
  cases x <;> rfl

/-- A job whose error is passed over. -/
theorem Ends.passedOver {x : Except Error α} (h : job.Ends files clock x after shown) :
    (tryCatch (job >>= fun _ => pure ()) fun _ => pure () : Job Unit).Ends files clock (.ok ()) after shown := by
  intro events
  rw [start_tryCatch, start_bind, h events]
  cases x <;> rfl

/-- A job that ends well ends so under report. -/
theorem Ends.reporting_ok (h : job.Ends files clock (.ok a) after shown) :
    (reporting isExpected lead failed job).Ends files clock (.ok a) after shown := by
  intro events
  unfold Job.reporting
  rw [start_tryCatch, h events]

/-- **An expected error is shown, and the program goes on.** -/
theorem Ends.reporting_error {text : String} (h : job.Ends files clock (.error e) after shown)
    (hexpected : isExpected e = true)
    (htext : Markup.render (styled "red" (lead ++ Markup.escape e.message)) = .ok text) :
    (reporting isExpected lead failed job).Ends files clock (.ok failed) after (shown ++ [.print text]) := by
  intro events
  unfold Job.reporting
  rw [start_tryCatch, h events]
  simp only [hexpected, if_true]
  exact ((ends_print htext).bind (ends_pure (a := failed)) _).trans (by simp)

/-- Any other error ends the program. -/
theorem Ends.reporting_unexpected (h : job.Ends files clock (.error e) after shown) (hno : isExpected e = false) :
    (reporting isExpected lead failed job).Ends files clock (.error e) after shown := by
  intro events
  unfold Job.reporting
  rw [start_tryCatch, h events]
  simp only [hno]
  rfl

end Reporting

end TapeMachine.Job
