import RegisterTrace.Proofs.Session.Attempt

/-!
# Histories of registers

Accesses to several registers come interleaved, some of them refused.  What comes of an access
depends on its own register, and it changes no other one, so each register has a history of its own:
it is what it would be if the accesses at its address were the only ones.  Two accesses at different
addresses commute, and so accesses may come in any order that keeps them in order at each address.
-/

namespace RegisterTrace

/-- The accesses at an address. -/
def Access.at (address : Word) (accesses : List Access) : List Access :=
  accesses.filter (·.address == address)

namespace Session

/-- The session after accesses, whatever comes of each. -/
def afterAccesses (session : Session) (accesses : List Access) : Session :=
  accesses.foldl (fun session access => (session.attempt access).state) session

/-- What comes of accesses that are made one after another, each access with its result. -/
def results : Session → List Access → List (Access × Except DecodeError Transaction)
  | _, [] => []
  | session, access :: rest =>
      (access, (session.attempt access).result) :: results (session.attempt access).state rest

/-- What comes of the accesses at an address, among others. -/
def resultsAt
    (session : Session)
    (address : Word)
    (accesses : List Access) :
    List (Access × Except DecodeError Transaction) :=
  (session.results accesses).filter (·.1.address == address)

/-! ## The history at one address -/

/-- Sessions that agree at an address still do after the accesses at this address alone. -/
theorem history_at
    {left right : Session}
    {address : Word}
    (same : left.registers.get? address = right.registers.get? address)
    (accesses : List Access) :
    left.resultsAt address accesses = right.results (Access.at address accesses) ∧
      (left.afterAccesses accesses).registers.get? address =
        (right.afterAccesses (Access.at address accesses)).registers.get? address := by
  rw [Access.at, resultsAt]
  induction accesses generalizing left right with
  | nil => exact ⟨rfl, same⟩
  | cons access rest inductionHypothesis =>
      have attempted := attempts left access
      -- Both sessions make an access at the address, and only the left one makes another.
      by_cases own : access.address = address
      · subst own
        rcases attempted.congr same with ⟨sameResult, sameAfter⟩
        rcases inductionHypothesis sameAfter with ⟨results, registers⟩
        simp only [results, beq_self_eq_true, List.filter_cons_of_pos, Session.results,
          sameResult]
        exact ⟨trivial, registers⟩
      · have passed : (access.address == address) = false := beq_false_of_ne own
        have sameAfter := (attempted.get?_of_ne (Ne.symm own)).trans same
        rcases inductionHypothesis sameAfter with ⟨results, registers⟩
        simp only [List.filter_cons, passed, Bool.false_eq_true, if_false, Session.results]
        exact ⟨results, registers⟩

/-! ## Accesses that commute -/

/-- The word with which an access sees its register, if the access is made. -/
def taken? (session : Session) (access : Access) : Option Word :=
  if (session.registers.get? access.address).isSome then Payload.word? access.digits else none

theorem state_attempt
    (session : Session)
    (access : Access) :
    (session.attempt access).state =
      match session.taken? access with
      | none => session
      | some value => session.see access.direction access.address value := by
  have attempted := attempts session access
  rw [taken?]
  generalize session.attempt access = outcome at attempted ⊢
  cases attempted with
  | unreadable noWord => simp [Payload.word?_eq_none_iff.mpr noWord, Outcome.refuse]
  | undefined writes free => simp [free, Outcome.refuse]
  | made writes found =>
      simp [found, Payload.word?_eq_some_iff.mpr writes, Outcome.accept]

/-- Whether an access is made does not depend on what was accessed before. -/
theorem taken?_attempt
    (session : Session)
    (first second : Access) :
    (session.attempt first).state.taken? second = session.taken? second := by
  rw [state_attempt]
  cases session.taken? first with
  | none => rfl
  | some value => simp only [taken?, registers_see, RegisterMap.isSome_get?_see]

/-- Accesses at two addresses leave the same session in either order. -/
theorem attempt_comm
    (session : Session)
    {first second : Access}
    (apart : first.address ≠ second.address) :
    ((session.attempt first).state.attempt second).state =
      ((session.attempt second).state.attempt first).state := by
  rw [state_attempt (session.attempt first).state, taken?_attempt,
    state_attempt (session.attempt second).state, taken?_attempt, state_attempt session first,
    state_attempt session second]
  cases session.taken? first with
  | none => rfl
  | some firstValue =>
      cases session.taken? second with
      | none => rfl
      | some secondValue => exact session.see_comm apart _ _ firstValue secondValue

/-- An access may be made before accesses at other addresses. -/
theorem afterAccesses_move
    (session : Session)
    {access : Access}
    {front : List Access}
    (others : ∀ other ∈ front, other.address ≠ access.address)
    (back : List Access) :
    session.afterAccesses (front ++ access :: back) =
      session.afterAccesses (access :: (front ++ back)) := by
  induction front generalizing session with
  | nil => rfl
  | cons first rest inductionHypothesis =>
      rcases List.forall_mem_cons.mp others with ⟨apart, othersLater⟩
      have moved := inductionHypothesis (session.attempt first).state othersLater
      simp only [afterAccesses, List.cons_append, List.foldl_cons] at moved ⊢
      rw [moved, attempt_comm session apart]

end Session

/-! ## Other orders -/

/-- Two sequences have the same accesses in the same order at each address. -/
def Access.SameOrder (left right : List Access) : Prop :=
  ∀ address, Access.at address left = Access.at address right

/-- Neighbours at different addresses may change places. -/
theorem Access.sameOrder_swap
    {first second : Access}
    (apart : first.address ≠ second.address)
    (front back : List Access) :
    SameOrder (front ++ first :: second :: back) (front ++ second :: first :: back) := by
  intro address
  simp only [Access.at, List.filter_append, List.append_cancel_left_eq]
  by_cases own : first.address = address
  · have other : (second.address == address) = false :=
      beq_false_of_ne fun same => apart (own.trans same.symm)
    simp only [List.filter_cons, other, Bool.false_eq_true, if_false]
  · have other : (first.address == address) = false := beq_false_of_ne own
    simp only [List.filter_cons, other, Bool.false_eq_true, if_false]

/-- The first access of one sequence is found in the other behind accesses at other addresses. -/
theorem Access.SameOrder.exists_split
    {access : Access}
    {rest others : List Access}
    (sameOrder : SameOrder (access :: rest) others) :
    ∃ front back,
      others = front ++ access :: back ∧
        (∀ other ∈ front, other.address ≠ access.address) ∧ SameOrder rest (front ++ back) := by
  have own := sameOrder access.address
  simp only [Access.at, beq_self_eq_true, List.filter_cons_of_pos] at own
  rcases List.filter_eq_cons_iff.mp own.symm with ⟨front, back, rfl, before, -, behind⟩
  have elsewhere : ∀ other ∈ front, other.address ≠ access.address := by
    intro other member same
    exact before other member (beq_iff_eq.mpr same)
  refine ⟨front, back, rfl, elsewhere, ?_⟩
  intro address
  have here := sameOrder address
  simp only [Access.at, List.filter_append] at here behind ⊢
  by_cases same : access.address = address
  · subst same
    have nothing : front.filter (·.address == access.address) = [] :=
      List.filter_eq_nil_iff.mpr before
    rw [nothing, List.nil_append, behind]
  · have passed : (access.address == address) = false := beq_false_of_ne same
    simp only [List.filter_cons, passed, Bool.false_eq_true, if_false] at here
    exact here

theorem Access.SameOrder.eq_nil
    {others : List Access}
    (sameOrder : SameOrder [] others) :
    others = [] := by
  cases others with
  | nil => rfl
  | cons access rest =>
      have own := sameOrder access.address
      simp [Access.at] at own

namespace Session

/-- Accesses in another order that is the same at each address leave the same session. -/
theorem afterAccesses_of_sameOrder
    (session : Session)
    {accesses others : List Access}
    (sameOrder : Access.SameOrder accesses others) :
    session.afterAccesses accesses = session.afterAccesses others := by
  induction accesses generalizing session others with
  | nil => rw [sameOrder.eq_nil]
  | cons access rest inductionHypothesis =>
      rcases sameOrder.exists_split with ⟨front, back, rfl, elsewhere, sameRest⟩
      rw [afterAccesses_move session elsewhere back]
      exact inductionHypothesis (session.attempt access).state sameRest

/--
What comes of the accesses at an address, and the register there after them, are the same as if
these accesses had been the only ones, whatever other accesses come in between.  So accesses may be
made in any order that is the same at each address: each has the same result, and the session after
them is the same.
-/
theorem histories_apart
    (session : Session)
    (accesses : List Access) :
    (∀ address,
        let own := Access.at address accesses
        session.resultsAt address accesses = session.results own ∧
          (session.afterAccesses accesses).registers.get? address =
            (session.afterAccesses own).registers.get? address) ∧
      ∀ others,
        Access.SameOrder accesses others →
          session.afterAccesses accesses = session.afterAccesses others ∧
            ∀ address,
              session.resultsAt address accesses = session.resultsAt address others := by
  refine ⟨fun address => history_at rfl accesses, ?_⟩
  intro others sameOrder
  refine ⟨session.afterAccesses_of_sameOrder sameOrder, ?_⟩
  intro address
  rw [(history_at rfl accesses).1, (history_at rfl others).1, sameOrder address]

/--
A read and a write of one register, with a refused write of another one between them or behind
them: the session after them is the same, and the write marks the bit that it changed.
-/
theorem refused_access_between :
    let session : Session :=
      { registers :=
          { registers :=
              [{ name := "A", address := 4, fields := [⟨"low", 4⟩] },
                { name := "B", address := 8 }] }
        device := "1.4.0" }
    let first : Access := { time := "", direction := .read, address := 4, digits := "1" }
    let refused : Access := { time := "", direction := .write, address := 8, digits := "g" }
    let second : Access := { time := "", direction := .write, address := 4, digits := "3" }
    Access.SameOrder [first, refused, second] [first, second, refused] ∧
      session.afterAccesses [first, refused, second] =
          session.afterAccesses [first, second, refused] ∧
        session.resultsAt 4 [first, refused, second] =
          [(first, .ok ⟨"", .read, 4, "1", "A", [⟨"low", 1, 0⟩]⟩),
            (second, .ok ⟨"", .write, 4, "3", "A", [⟨"low", 3, 2⟩]⟩)] := by
  refine ⟨Access.sameOrder_swap (by decide) [_] [], ?_, ?_⟩
  · exact ((histories_apart _ _).2 _ (Access.sameOrder_swap (by decide) [_] [])).1
  · exact ((histories_apart _ _).1 4).1.trans rfl

end Session

end RegisterTrace
