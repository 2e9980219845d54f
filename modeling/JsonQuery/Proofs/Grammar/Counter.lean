import JsonQuery.Engine
import JsonQuery.Proofs.Grammar.UpTo

/-!
# The counter of nesting

The allowance of `Grammar.expression` is what a counter leaves of the limit: one is added for every
nested expression and for every token of a chain, and both are taken off again when the expression, or
the chain, is left.

* `Counter` — the value of the counter, the values it has had, and its values at the start and at the
  end of every call; `Counter.Sound` — these are what they should be.
* `Counting.expression`, `Counting.chain` — the reader that counts; `Counting.parse` — a whole text.
* `Counting.follows` — it reads what `Grammar.expression` reads and leaves the counter as it was.
* `Expr.parse_limit` — a larger limit changes nothing but the fault of too deep a nesting, and the
  counter stays between zero and the limit.
-/

namespace JsonQuery

namespace Grammar

/-- The counter of nesting during a run. -/
structure Counter where
  value : Int
  /-- The values that it has been set to. -/
  past : List Int
  /-- Its values at the start and at the end of every call that has returned. -/
  calls : List (Int × Int)

namespace Counter

/-- The counter at the start of a run. -/
def start : Counter := ⟨0, [], []⟩

/-- Sets the counter. -/
def set (c : Counter) (v : Int) : Counter := { c with value := v, past := v :: c.past }

/-- Notes that a call has returned, which found the counter at `entry`. -/
def returned (c : Counter) (entry : Int) : Counter := { c with calls := (entry, c.value) :: c.calls }

/-- The counter has stayed between zero and the limit, and every call has left it as it was. -/
structure Sound (limit : Nat) (c : Counter) : Prop where
  within : ∀ v ∈ c.past, 0 ≤ v ∧ v ≤ limit
  restored : ∀ call ∈ c.calls, call.2 = call.1

variable {limit : Nat} {c : Counter}

theorem sound_start : start.Sound limit := ⟨by simp [start], by simp [start]⟩

theorem Sound.set {v : Int} (h : c.Sound limit) (h0 : 0 ≤ v) (hv : v ≤ limit) :
    (c.set v).Sound limit :=
  ⟨List.forall_mem_cons.2 ⟨⟨h0, hv⟩, h.within⟩, h.restored⟩

theorem Sound.returned {entry : Int} (h : c.Sound limit) (hentry : c.value = entry) :
    (c.returned entry).Sound limit :=
  ⟨h.within, List.forall_mem_cons.2 ⟨hentry, h.restored⟩⟩

end Counter

/-! ## Reading with a counter -/

/-- Reading with a counter; nothing is returned once the fuel is used up.  The counter stays as it is
when reading fails. -/
structure Counting (α : Type) where
  run : Counter → Option (Except Fault α × Counter)

instance : Parsing Counting where
  pure a := ⟨fun c => some (.ok a, c)⟩
  bind x k := ⟨fun c =>
    match x.run c with
    | none => none
    | some (.error fault, c) => some (.error fault, c)
    | some (.ok a, c) => (k a).run c⟩
  fail fault := ⟨fun c => some (.error fault, c)⟩
  called x := ⟨fun c => (x.run c).map fun (result, c') => (result, c'.returned c.value)⟩

namespace Counting

variable {α β : Type}

/-- The end of the fuel. -/
def exhausted : Counting α := ⟨fun _ => none⟩

/-- Goes on with the result, be it a fault. -/
def attempt (x : Counting α) : Counting (Except Fault α) :=
  ⟨fun c => (x.run c).map fun (result, c) => (.ok result, c)⟩

/-- One level deeper, if the limit allows it. -/
def descend (limit : Nat) (ts : List Token) : Counting Unit := ⟨fun c =>
  if limit ≤ c.value then some (.error ⟨.tooDeep limit, ts⟩, c)
  else some (.ok (), c.set (c.value + 1))⟩

/-- Takes levels off the counter and ends with a result. -/
def leave (levels : Nat) (result : Except Fault α) : Counting α :=
  ⟨fun c => some (result, c.set (c.value - levels))⟩

mutual

/-- Reads an expression up to the first token that binds no stronger than `power`.  Its level is taken
off the counter whether it is read or not. -/
def expression (arity? : String → Option Arity) (limit : Nat) :
    Nat → Nat → List Token → Counting (Expr × List Token)
  | 0, _, _ => exhausted
  | fuel + 1, power, ts => Parsing.called do
    descend limit ts
    let result ← attempt <| Parsing.called do
      let (left, rest) ← Effectful.primary arity? (expression arity? limit fuel) ts
      chain arity? limit fuel power 0 left rest
    leave 1 result

/-- Takes `left` further while the next token binds stronger than `power`.  The levels of its links,
`links` so far, are taken off the counter when it ends, also with a fault. -/
def chain (arity? : String → Option Arity) (limit : Nat) :
    Nat → Nat → Nat → Expr → List Token → Counting (Expr × List Token)
  | 0, _, _, _, _ => exhausted
  | fuel + 1, power, links, left, ts =>
    if Token.nextPower ts ≤ power then leave links (.ok (left, ts))
    else do
      match ← attempt (descend limit ts) with
      | .error fault => leave links (.error fault)
      | .ok () =>
        match ← attempt (Effectful.extend (expression arity? limit fuel) left ts) with
        | .error fault => leave (links + 1) (.error fault)
        | .ok (left, rest) => chain arity? limit fuel power (links + 1) left rest

end

/-- The expression that all the tokens make up. -/
def whole (arity? : String → Option Arity) (limit fuel : Nat) (ts : List Token) : Counting Expr := do
  let (e, rest) ← expression arity? limit fuel 0 ts
  match rest with
  | [] => pure e
  | rest => Parsing.fail ⟨.unexpected rest.head?, rest⟩

/-- The expression of a text, and the counter at the end. -/
def parse (arity? : String → Option Arity) (limit fuel : Nat) (text : String) :
    Option (Except ParseError Expr × Counter) :=
  match TokenRow.ofText text with
  | .error e => some (.error e, .start)
  | .ok row =>
    ((whole arity? limit fuel row.tokens).run .start).map fun (result, c) =>
      (result.mapError fun fault => ⟨fault.cause, row.place fault.rest.length⟩, c)

/-! ## What a run with a counter does -/

variable {x : Counting α} {k : α → Counting β} {c c' : Counter}

theorem bind_ok {a : α} (h : x.run c = some (.ok a, c')) : (x >>= k).run c = (k a).run c' := by
  show (match x.run c with | none => none | some (.error fault, c) => _ | some (.ok a, c) => _) = _
  rw [h]

theorem bind_error {fault : Fault} (h : x.run c = some (.error fault, c')) :
    (x >>= k).run c = some (.error fault, c') := by
  show (match x.run c with | none => none | some (.error fault, c) => _ | some (.ok a, c) => _) = _
  rw [h]

theorem bind_attempt {k : Except Fault α → Counting β} {result : Except Fault α}
    (h : x.run c = some (result, c')) : (attempt x >>= k).run c = (k result).run c' :=
  bind_ok (by simp only [attempt, h, Option.map_some])

variable {limit : Nat} {ts : List Token}

theorem descend_full (h : limit ≤ c.value) :
    (descend limit ts).run c = some (.error ⟨.tooDeep limit, ts⟩, c) := if_pos h

theorem descend_below (h : c.value < limit) :
    (descend limit ts).run c = some (.ok (), c.set (c.value + 1)) := if_neg (Int.not_le.2 h)

/-- Levels are taken off with any result. -/
theorem leave_returns {d : Int} {levels : Nat} (hd : 0 ≤ d) (hlimit : d ≤ limit)
    (hvalue : c.value = d + levels) (hc : c.Sound limit) (result : Except Fault α) :
    ∃ c', (leave levels result).run c = some (result, c') ∧ c'.value = d ∧ c'.Sound limit := by
  have hback : c.value - levels = d := by omega
  exact ⟨c.set (c.value - levels), rfl, hback, hc.set (by omega) (by omega)⟩

/-- Counting from the value `d` on, a run has the result of the grammar and leaves the counter at
`d`. -/
def Returns (limit : Nat) (d : Int) (x : Counting α) (y : Except Fault α) : Prop :=
  ∀ c : Counter, c.value = d → c.Sound limit →
    ∃ c', x.run c = some (y, c') ∧ c'.value = d ∧ c'.Sound limit

/-- Every step of reading with a counter leaves it as it was. -/
def keeps (limit : Nat) (d : Int) : Simulation Counting where
  holds := Returns limit d
  pure _ := fun c hd hc => ⟨c, rfl, hd, hc⟩
  fail _ := fun c hd hc => ⟨c, rfl, hd, hc⟩
  called hx := fun c hd hc => by
    obtain ⟨c', hrun, hd', hc'⟩ := hx c hd hc
    refine ⟨c'.returned c.value, ?_, hd', hc'.returned (hd'.trans hd.symm)⟩
    show (_ : Option _).map _ = _
    rw [hrun, Option.map_some]
  bind {_ _ x y _ _} hx herror hok := fun c hd hc => by
    obtain ⟨c', hrun, hd', hc'⟩ := hx c hd hc
    cases y with
    | error fault => exact ⟨c', by rw [bind_error hrun, herror fault rfl], hd', hc'⟩
    | ok a =>
      rw [bind_ok hrun]
      exact hok a rfl c' hd' hc'

variable {arity? : String → Option Arity} {fuel n links : Nat}

/-- With this much fuel, an expression is read within any allowance that is less as the grammar reads it;
the counter starts at what is used up of the limit. -/
def Follows (arity? : String → Option Arity) (limit fuel : Nat) : Prop :=
  ∀ n, n < fuel → n ≤ limit → ∀ power ts,
    Returns limit (limit - n) (expression arity? limit fuel power ts)
      (Grammar.expression arity? limit n power ts)

/-- A chain takes its links off the counter. -/
theorem chain_returns (hsub : ∀ f < fuel, Follows arity? limit f) (hn : n < fuel) (power : Nat)
    (left : Expr) (ts : List Token) {c : Counter} {d : Int} (hd : 0 ≤ d)
    (hlinks : d + links = limit - n) (hvalue : c.value = d + links) (hc : c.Sound limit) :
    ∃ c', (chain arity? limit fuel power links left ts).run c =
        some (Grammar.chain arity? limit n power left ts, c') ∧
      c'.value = d ∧ c'.Sound limit := by
  induction fuel generalizing n links left ts c with
  | zero => exact absurd hn (Nat.not_lt_zero n)
  | succ fuel ih =>
    rw [chain, Grammar.chain.eq_def]
    dsimp only
    by_cases hpower : Token.nextPower ts ≤ power
    · rw [if_pos hpower, if_pos hpower]
      exact leave_returns hd (by omega) hvalue hc _
    · rw [if_neg hpower, if_neg hpower]
      cases n with
      | zero =>
        rw [bind_attempt (descend_full (by omega))]
        exact leave_returns hd (by omega) hvalue hc _
      | succ n =>
        have hset : (c.set (c.value + 1)).value = limit - n := by
          show c.value + 1 = limit - n
          omega
        obtain ⟨c₁, hrun, hvalue₁, hc₁⟩ :=
          (keeps limit (limit - n)).extend (hsub fuel (Nat.lt_succ_self _) n (by omega) (by omega))
            left ts _ hset (hc.set (by omega) (by omega))
        rw [bind_attempt (descend_below (by omega))]
        dsimp only
        rw [bind_attempt hrun]
        cases extend (Grammar.expression arity? limit n) left ts with
        | error fault => exact leave_returns hd (by omega) (by omega) hc₁ _
        | ok r =>
          exact ih (fun f hf => hsub f (by omega)) (by omega) r.1 r.2 (by omega) (by omega) hc₁

/-- What an expression is read from, one level down: a start and a chain. -/
theorem body_returns (hsub : ∀ f ≤ fuel, Follows arity? limit f) (hn : n < fuel) (hlimit : n ≤ limit)
    (power : Nat) (ts : List Token) :
    Returns limit (limit - n)
      (do
        let (left, rest) ← Effectful.primary arity? (expression arity? limit fuel) ts
        chain arity? limit fuel power 0 left rest)
      (match primary arity? (Grammar.expression arity? limit n) ts with
        | .error fault => .error fault
        | .ok (left, rest) => Grammar.chain arity? limit n power left rest) := by
  have hprimary := (keeps limit (limit - n)).primary (hsub fuel (Nat.le_refl _) n hn hlimit)
    ((keeps limit (limit - n)).arity arity?) ts
  refine (keeps limit (limit - n)).bind hprimary (fun _ h => by rw [h]) fun ⟨left, rest⟩ h => ?_
  rw [h]
  exact fun c hvalue hc => chain_returns (fun f hf => hsub f (Nat.le_of_lt hf)) hn power left rest
    (by omega) (by omega) (by omega) hc

/-- **The reader that counts** has the result of the grammar and leaves the counter as it was, however
the reading ends. -/
theorem follows (arity? : String → Option Arity) (limit fuel : Nat) : Follows arity? limit fuel := by
  induction fuel using Nat.strongRecOn with
  | ind fuel ih =>
    intro n hn hlimit power ts
    obtain ⟨fuel, rfl⟩ : ∃ f, fuel = f + 1 := ⟨fuel - 1, by omega⟩
    rw [expression]
    refine (keeps limit (limit - n)).called fun c hvalue hc => ?_
    cases n with
    | zero =>
      rw [bind_error (descend_full (by omega)), Grammar.expression]
      exact ⟨c, rfl, hvalue, hc⟩
    | succ n =>
      have hset : (c.set (c.value + 1)).value = limit - n := by
        show c.value + 1 = limit - n
        omega
      obtain ⟨c₁, hrun, hvalue₁, hc₁⟩ := (keeps limit (limit - n)).called
        (body_returns (fun f hf => ih f (by omega)) (show n < fuel by omega) (by omega) power ts) _
        hset (hc.set (by omega) (by omega))
      rw [bind_ok (descend_below (by omega)), bind_attempt hrun, Grammar.expression]
      exact leave_returns (by omega) (by omega) (by omega) hc₁ _

theorem whole_returns (arity? : String → Option Arity) (hfuel : limit < fuel) (ts : List Token) :
    Returns limit 0 (whole arity? limit fuel ts) (Grammar.whole arity? limit ts) := by
  have hread := follows arity? limit fuel limit hfuel (Nat.le_refl _) 0 ts
  rw [Int.sub_self] at hread
  unfold Grammar.whole
  refine (keeps limit 0).bind hread (fun _ h => by rw [h]) fun ⟨e, rest⟩ h => ?_
  rw [h]
  cases rest with
  | nil => exact (keeps limit 0).pure _
  | cons t rest => exact (keeps limit 0).fail _

/-- A text is read as without the counter, which is at zero again at the end. -/
theorem parse_eq (arity? : String → Option Arity) (hfuel : limit < fuel) (text : String) :
    ∃ c, parse arity? limit fuel text = some (Expr.parse arity? limit text, c) ∧
      c.value = 0 ∧ c.Sound limit := by
  unfold parse Expr.parse
  cases TokenRow.ofText text with
  | error e => exact ⟨.start, rfl, rfl, Counter.sound_start⟩
  | ok row =>
    obtain ⟨c, hrun, hvalue, hc⟩ := whole_returns arity? hfuel row.tokens .start rfl Counter.sound_start
    refine ⟨c, ?_, hvalue, hc⟩
    dsimp only
    rw [hrun]
    cases Grammar.whole arity? limit row.tokens <;> rfl

/-- The level of the dot is taken off when the chain ends, that of the name behind it before. -/
example : ((whole (fun _ => none) 3 4 [.identifier "a", .dot, .identifier "b"]).run .start).map
    (fun r => r.2.past) = some [0, 1, 2, 3, 3, 2, 1] := by rfl

end Counting

end Grammar

/-- **The limit only rejects.**  What is read within a limit is read within any larger one, and any
other fault than too deep a nesting stays the same fault at the same place.  The counter of nesting is
left by every call as it was found, whether the call fails or not, and never leaves the range from zero
to the limit. -/
theorem Expr.parse_limit (arity? : String → Option Arity) {limit limit' : Nat} (h : limit ≤ limit')
    (text : String) :
    (∀ e, Expr.parse arity? limit text = .ok e → Expr.parse arity? limit' text = .ok e) ∧
    (∀ error, Expr.parse arity? limit text = .error error → (∀ n, error.cause ≠ .tooDeep n) →
      Expr.parse arity? limit' text = .error error) ∧
    ∀ fuel > limit, ∃ c, Grammar.Counting.parse arity? limit fuel text =
        some (Expr.parse arity? limit text, c) ∧
      c.value = 0 ∧ (∀ v ∈ c.past, 0 ≤ v ∧ v ≤ limit) ∧ ∀ call ∈ c.calls, call.2 = call.1 := by
  have hnames : Grammar.MoreNames (fun cause => cause = .tooDeep limit) arity? arity? :=
    fun _ => .inl rfl
  have hsame := Expr.parse_upTo hnames (.inr ⟨h, rfl⟩) text
  refine ⟨fun e he => ?_, fun error herror hcause => ?_, fun fuel hfuel => ?_⟩
  · rcases hsame with hsame | ⟨error, herror, -⟩
    · rw [← hsame, he]
    · rw [he] at herror
      cases herror
  · rcases hsame with hsame | ⟨error', herror', hdeep⟩
    · rw [← hsame, herror]
    · rw [herror] at herror'
      cases herror'
      exact absurd hdeep (hcause limit)
  · obtain ⟨c, hrun, hvalue, hc⟩ := Grammar.Counting.parse_eq arity? hfuel text
    exact ⟨c, hrun, hvalue, hc.within, hc.restored⟩

/-- The name behind a dot is on the third level: it is read within three levels, and within 256. -/
theorem Expr.parse_limit_of_step :
    let e : Expr := .subexpr (.identifier "a") (.identifier "b")
    3 ≤ 256 ∧ Expr.parse (Library.functions .plain true).arity? 3 "a.b" = .ok e ∧
      Expr.parse (Library.functions .plain true).arity? 256 "a.b" = .ok e := by
  intro e
  have hread : ∀ arity?, Expr.parse arity? 3 "a.b" = .ok e := by
    intro arity?
    cbv
  exact ⟨by decide, hread _, (Expr.parse_limit _ (by decide) "a.b").1 e (hread _)⟩

end JsonQuery
