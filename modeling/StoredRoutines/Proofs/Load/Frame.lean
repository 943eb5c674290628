import StoredRoutines.Database.InMemory
import StoredRoutines.Load.Session

/-!
# Frames

What a load leaves alone. A frame relates the states of a database before and after; a
computation is within a frame if its two states are related however it ends.

## Main definitions

- `Frame` — a reflexive and transitive relation between states
- `Frame.view`, `Frame.logged` — a part of the state stays, statements of a kind are appended
- `Loading.Within` — every run of a computation is within a frame
-/

namespace StoredRoutines

/-- A relation between the states before and after that allows doing nothing and doing one thing
    after another. -/
structure Frame (σ : Type) where
  rel : σ → σ → Prop
  refl : ∀ d, rel d d
  trans : ∀ {a b c}, rel a b → rel b c → rel a c

namespace Frame

variable {σ β : Type}

/-- A view of the state is the same as before. -/
def view (f : σ → β) : Frame σ where
  rel a b := f b = f a
  refl _ := rfl
  trans hab hbc := hbc.trans hab

/-- The recorded statements are kept, and those that are added satisfy `p`. -/
def logged (p : String → Prop) : Frame InMemory where
  rel a b := ∃ added, b.statements = a.statements ++ added ∧ ∀ x ∈ added, p x
  refl _ := ⟨[], by simp, by simp⟩
  trans := by
    rintro a b c ⟨l, hl, hp⟩ ⟨m, hm, hq⟩
    refine ⟨l ++ m, by rw [hm, hl, List.append_assoc], fun x hx => ?_⟩
    rcases List.mem_append.1 hx with hx | hx
    · exact hp x hx
    · exact hq x hx

theorem logged_mono {p q : String → Prop} (h : ∀ x, p x → q x) {a b : InMemory}
    (hab : (logged p).rel a b) : (logged q).rel a b := by
  obtain ⟨added, hadded, hp⟩ := hab
  exact ⟨added, hadded, fun x hx => h x (hp x hx)⟩

end Frame

namespace Loading

variable {σ ε α β : Type}

/-- Every run of a computation is within a frame. -/
def Within (F : Frame σ) (m : Loading σ ε α) : Prop :=
  ∀ s, F.rel s.database (databaseOf (m s))

/-- A sequence succeeds exactly if both parts do. -/
theorem bind_eq_ok_iff {m : Loading σ ε α} {f : α → Loading σ ε β} {s s' : Session σ} {b : β} :
    (m >>= f) s = .ok b s' ↔ ∃ a t, m s = .ok a t ∧ f a t = .ok b s' := by
  change EStateM.bind m f s = _ ↔ _
  unfold EStateM.bind
  cases m s with
  | ok a t =>
    constructor
    · intro h
      exact ⟨a, t, rfl, h⟩
    · rintro ⟨_, _, ⟨⟩, h⟩
      exact h
  | error e t => simp

/-- Two steps fail if the first one fails or the second one fails behind it. -/
theorem bind_eq_error_iff {m : Loading σ ε α} {f : α → Loading σ ε β} {s s' : Session σ} {e : ε} :
    (m >>= f) s = .error e s' ↔
      m s = .error e s' ∨ ∃ a t, m s = .ok a t ∧ f a t = .error e s' := by
  change EStateM.bind m f s = _ ↔ _
  unfold EStateM.bind
  cases m s with
  | ok a t =>
    constructor
    · intro h
      exact .inr ⟨a, t, rfl, h⟩
    · rintro (h | ⟨_, _, ⟨⟩, h⟩)
      · cases h
      · exact h
  | error e t => simp

theorem bind_of_ok {m : Loading σ ε α} {f : α → Loading σ ε β} {s t : Session σ} {a : α}
    (h : m s = .ok a t) : (m >>= f) s = f a t := by
  change EStateM.bind m f s = _
  rw [EStateM.bind, h]

theorem bind_of_error {m : Loading σ ε α} {f : α → Loading σ ε β} {s t : Session σ} {e : ε}
    (h : m s = .error e t) : (m >>= f) s = .error e t := by
  change EStateM.bind m f s = _
  rw [EStateM.bind, h]

/-- A question to the database succeeds exactly if the database answers. -/
theorem ask_eq_ok_iff {failed : DatabaseError → ε} {query : Query σ α} {s s' : Session σ} {a : α} :
    ask failed query s = .ok a s' ↔
      ∃ d, query s.database = (.ok a, d) ∧ s' = { s with database := d } := by
  unfold ask
  rcases query s.database with ⟨_ | b, d⟩
  · simp
  · simp only [EStateM.Result.ok.injEq, Prod.mk.injEq, Except.ok.injEq]
    constructor
    · rintro ⟨rfl, rfl⟩
      exact ⟨d, ⟨rfl, rfl⟩, rfl⟩
    · rintro ⟨d', ⟨rfl, rfl⟩, rfl⟩
      exact ⟨rfl, rfl⟩

/-- A question fails if the database refuses it, and the error is made of the refusal. -/
theorem ask_eq_error_iff {failed : DatabaseError → ε} {query : Query σ α} {s s' : Session σ}
    {e : ε} :
    ask failed query s = .error e s' ↔
      ∃ c d, query s.database = (.error c, d) ∧ failed c = e ∧ s' = { s with database := d } := by
  unfold ask
  rcases query s.database with ⟨c | b, d⟩
  · simp only [EStateM.Result.error.injEq, Prod.mk.injEq, Except.error.injEq]
    constructor
    · rintro ⟨rfl, rfl⟩
      exact ⟨c, d, ⟨rfl, rfl⟩, rfl, rfl⟩
    · rintro ⟨c', d', ⟨rfl, rfl⟩, rfl, rfl⟩
      exact ⟨rfl, rfl⟩
  · simp

@[simp]
theorem ofExcept_eq_ok_iff {outcome : Except ε α} {s s' : Session σ} {a : α} :
    ofExcept outcome s = .ok a s' ↔ outcome = .ok a ∧ s' = s := by
  cases outcome <;> simp [ofExcept, eq_comm]

@[simp]
theorem ofExcept_eq_error_iff {outcome : Except ε α} {s s' : Session σ} {e : ε} :
    ofExcept outcome s = .error e s' ↔ outcome = .error e ∧ s' = s := by
  cases outcome <;> simp [ofExcept, eq_comm]

@[simp]
theorem notify_eq_ok_iff {notices : List Notice} {s s' : Session σ} {a : Unit} :
    (notify notices : Loading σ ε Unit) s = .ok a s' ↔
      s' = { s with notices := s.notices ++ notices } := by
  simp [notify, eq_comm]

@[simp]
theorem notify_ne_error {notices : List Notice} {s s' : Session σ} {e : ε} :
    (notify notices : Loading σ ε Unit) s ≠ .error e s' := by
  simp [notify]

@[simp]
theorem pure_eq_ok_iff {a b : α} {s s' : Session σ} :
    (pure a : Loading σ ε α) s = .ok b s' ↔ a = b ∧ s = s' := by
  change EStateM.Result.ok a s = .ok b s' ↔ _
  simp

@[simp]
theorem pure_ne_error {a : α} {s s' : Session σ} {e : ε} :
    (pure a : Loading σ ε α) s ≠ .error e s' := by
  change EStateM.Result.ok a s ≠ .error e s'
  simp

namespace Within

variable {F : Frame σ}

theorem pure (a : α) : Within F (pure a : Loading σ ε α) :=
  fun s => F.refl s.database

theorem throw (e : ε) : Within F (throw e : Loading σ ε α) :=
  fun s => F.refl s.database

theorem notify (notices : List Notice) : Within F (notify notices : Loading σ ε Unit) :=
  fun s => F.refl s.database

theorem ofExcept (outcome : Except ε α) : Within F (ofExcept outcome : Loading σ ε α) := by
  intro s
  cases outcome <;> exact F.refl s.database

theorem bind {m : Loading σ ε α} {f : α → Loading σ ε β} (hm : Within F m)
    (hf : ∀ a, Within F (f a)) : Within F (m >>= f) := by
  intro s
  have h := hm s
  change F.rel s.database (databaseOf (EStateM.bind m f s))
  unfold EStateM.bind
  cases hms : m s with
  | error e t =>
    rw [hms] at h
    exact h
  | ok a t =>
    rw [hms] at h
    exact F.trans h (hf a t)

theorem ask {failed : DatabaseError → ε} {query : Query σ α}
    (h : ∀ d, F.rel d (query d).2) : Within F (ask failed query) := by
  intro s
  have hq := h s.database
  unfold Loading.ask
  rcases hd : query s.database with ⟨_ | a, d⟩ <;> rw [hd] at hq <;> exact hq

theorem attempt {query : Query σ α} (h : ∀ d, F.rel d (query d).2) :
    Within F (attempt query : Loading σ ε (Except DatabaseError α)) :=
  fun s => h s.database

theorem of_ok {m : Loading σ ε α} {s s' : Session σ} {a : α} (h : Within F m)
    (hm : m s = .ok a s') : F.rel s.database s'.database := by
  have hs := h s
  rw [hm] at hs
  exact hs

theorem of_error {m : Loading σ ε α} {s s' : Session σ} {e : ε} (h : Within F m)
    (hm : m s = .error e s') : F.rel s.database s'.database := by
  have hs := h s
  rw [hm] at hs
  exact hs

end Within

end Loading

/-! ### Statements of the in-memory database -/

namespace InMemory

variable {α : Type} {sql : String} {act : InMemory → Except DatabaseError (α × InMemory)}

/-- The state in which a statement has been recorded. -/
def record (sql : String) (d : InMemory) : InMemory :=
  { d with statements := d.statements ++ [sql] }

/-- A statement that is carried out acts on the state in which it has been recorded. -/
theorem statement_eq_ok {a : α} {d d' : InMemory} (h : statement sql act d = (.ok a, d')) :
    act (d.record sql) = .ok (a, d') := by
  unfold statement at h
  simp only at h
  split at h
  · simp at h
  · split at h
    · next hact =>
      cases h
      exact hact
    · simp at h

theorem statement_eq_error {e : DatabaseError} {d d' : InMemory}
    (h : statement sql act d = (.error e, d')) : d' = d.record sql := by
  unfold statement at h
  simp only at h
  split at h
  · exact (Prod.mk.inj h).2.symm
  · split at h
    · simp at h
    · exact (Prod.mk.inj h).2.symm

/-- A statement stays within a frame that allows it to be recorded and to be carried out. -/
theorem statement_rel {F : Frame InMemory} (hrecord : ∀ d, F.rel d (d.record sql))
    (hact : ∀ d a d', act d = .ok (a, d') → F.rel d d') (d : InMemory) :
    F.rel d (statement sql act d).2 := by
  rcases hd : statement sql act d with ⟨e | a, d'⟩
  · rw [statement_eq_error hd]
    exact hrecord d
  · exact F.trans (hrecord d) (hact _ a d' (statement_eq_ok hd))

end InMemory

/-! ### The operations that are statements -/

section

variable (kind : RoutineKind) (name sql characterSet collation : String)

theorem inMemory_execute : inMemory.execute sql = InMemory.statement sql (InMemory.create sql) :=
  rfl

theorem inMemory_fetchRows :
    inMemory.fetchRows sql = InMemory.statement sql fun s => .ok (InMemory.rows sql s, s) := rfl

theorem inMemory_describeTable :
    inMemory.describeTable name =
      InMemory.statement ("show columns from " ++ name) (InMemory.describe name) := rfl

theorem inMemory_dropRoutine :
    inMemory.dropRoutine kind name =
      InMemory.statement (Database.dropStatement kind name) fun s => .ok ((), s.drop kind name) :=
  rfl

theorem inMemory_dropTemporaryTable :
    inMemory.dropTemporaryTable name =
      InMemory.statement (Database.dropTemporaryStatement name) (InMemory.dropTemporary name) :=
  rfl

theorem inMemory_callRoutine :
    inMemory.callRoutine name =
      InMemory.statement (Database.callStatement name) (InMemory.call name) := rfl

theorem inMemory_setSqlMode :
    inMemory.setSqlMode sql =
      InMemory.statement (Database.sqlModeStatement sql) fun s => .ok ((), s.withSqlMode sql) :=
  rfl

theorem inMemory_setCharacterSet :
    inMemory.setCharacterSet characterSet collation =
      InMemory.statement (Database.characterSetStatement characterSet collation) fun s =>
        .ok ((), s.withCharacterSet characterSet collation) := rfl

end

end StoredRoutines
