import SignOn.Proofs.Engine.Endings

/-!
# Contracts side by side

Two programs side by side keep both their contracts, and what they have done is, up to the order,
what each of them has done (`Program.meets_beside`).  For this the guards must not mind that more
has been done than they know of.

A logout whose budget is not used up does both of its halves in every order of their actions: it
tries to delete the session, and it tries to revoke the credential it was given; its outcome is the
failure of the first, if there is one, and otherwise that of the second (`LogoutEnds`).
-/

namespace SignOn.Engine

set_option autoImplicit false

open Operation

/-! ## Programs side by side -/

namespace Program

variable {α β γ : Type} {guard : List Moment → Action → Prop}

/-- What may be done may also be done after more. -/
def Tolerant (guard : List Moment → Action → Prop) : Prop :=
  ∀ past more action, guard past action → past ⊆ more → guard more action

theorem perm_cons_right {moment : Moment} {past mine theirs : List Moment}
    (same : past.Perm (mine ++ theirs)) :
    (moment :: past).Perm (mine ++ moment :: theirs) :=
  (same.cons moment).trans List.perm_middle.symm

theorem subset_of_perm_left {past mine theirs : List Moment} (same : past.Perm (mine ++ theirs)) :
    mine ⊆ past :=
  fun _ member => same.mem_iff.2 (List.mem_append_left theirs member)

theorem subset_of_perm_right {past mine theirs : List Moment} (same : past.Perm (mine ++ theirs)) :
    theirs ⊆ past :=
  fun _ member => same.mem_iff.2 (List.mem_append_right mine member)

/-- A program keeps its contract among what others have done before. -/
theorem meets_among (tolerant : Tolerant guard) {goal : List Moment → α → Prop}
    {program : Program α} {past mine theirs : List Moment}
    (meets : program.Meets guard goal mine) (same : past.Perm (mine ++ theirs)) :
    program.Meets guard
      (fun past value => ∃ mine, past.Perm (mine ++ theirs) ∧ goal mine value) past := by
  induction program generalizing past mine with
  | done value => exact ⟨mine, same, meets⟩
  | perform action next ih =>
    refine ⟨tolerant _ _ _ meets.1 (subset_of_perm_left same), fun result => ?_⟩
    exact ih result (meets.2 result) (same.cons _)

theorem meets_giveWay (tolerant : Tolerant guard) {goal : List Moment → γ → Prop}
    {yours : List Moment → β → Prop} {goOn : List Bool → Program β → Program γ}
    {ended : β → Program γ} {second : Program β} {past mine theirs before : List Moment}
    (two : second.Meets guard yours theirs)
    (goesOn : ∀ turns (rest : Program β) theirs past, rest.Meets guard yours theirs →
      past.Perm (mine ++ (theirs ++ before)) → (goOn turns rest).Meets guard goal past)
    (ends : ∀ value theirs past, yours theirs value → past.Perm (mine ++ (theirs ++ before)) →
      (ended value).Meets guard goal past)
    (same : past.Perm (mine ++ (theirs ++ before))) (turns : List Bool) :
    (giveWay goOn ended turns second).Meets guard goal past := by
  induction second generalizing turns theirs past with
  | done value =>
    cases turns <;> exact ends value theirs past two same
  | perform action next ih =>
    match turns with
    | [] => exact goesOn [] _ theirs past two same
    | false :: turns => exact goesOn turns _ theirs past two same
    | true :: turns =>
      have known : theirs ⊆ past := fun _ member =>
        subset_of_perm_right same (List.mem_append_left before member)
      refine ⟨tolerant _ _ _ two.1 known, fun result => ?_⟩
      exact ih result (two.2 result) (perm_cons_right same) turns

/-- Side by side, two programs keep both their contracts. -/
theorem meets_beside (tolerant : Tolerant guard) {ours : List Moment → α → Prop}
    {yours : List Moment → β → Prop} {first : Program α} {second : Program β}
    {past mine theirs before : List Moment} (one : first.Meets guard ours mine)
    (two : second.Meets guard yours theirs) (same : past.Perm (mine ++ (theirs ++ before)))
    (turns : List Bool) :
    (first.beside turns second).Meets guard
      (fun past both => ∃ mine theirs, past.Perm (mine ++ (theirs ++ before)) ∧
        ours mine both.1 ∧ yours theirs both.2) past := by
  induction first generalizing turns second past mine theirs with
  | done value =>
    refine (meets_bind _ _ past).2 ?_
    have swapped : past.Perm (theirs ++ (mine ++ before)) :=
      same.trans (List.perm_append_comm_assoc mine theirs before)
    refine (meets_among tolerant two swapped).mono (fun _ _ allowed => allowed) ?_
    rintro past other ⟨theirs, same, holds⟩
    exact ⟨mine, theirs, same.trans (List.perm_append_comm_assoc theirs mine before), one, holds⟩
  | perform action next ih =>
    refine meets_giveWay tolerant two ?_ ?_ same turns
    · intro turns rest theirs past two same
      refine ⟨tolerant _ _ _ one.1 (subset_of_perm_left same), fun result => ?_⟩
      exact ih result (one.2 result) two (same.cons _) turns
    · intro other theirs past holds same
      refine (meets_bind _ _ past).2 ?_
      refine (meets_among tolerant one same).mono (fun _ _ allowed => allowed) ?_
      rintro past value ⟨mine, same, done⟩
      exact ⟨mine, theirs, same, done, holds⟩

end Program

/-! ## Logouts -/

/-- What revoking does, latest first, and what it comes to. -/
inductive Revokes (codec : Codec) : Option String → List Moment → Except Failure Unit → Prop where
  | nothing : Revokes codec none [] (.ok ())
  | unreadable {given : String} {now : Instant} {rejection : Rejection}
      (read : codec.remaining now given = .error rejection) :
      Revokes codec (some given) [.clock now] (.error (.rejected rejection))
  | spent {given : String} {now : Instant} {left : Int} (read : codec.remaining now given = .ok left)
      (ended : left ≤ 0) : Revokes codec (some given) [.clock now] (.ok ())
  | marks {given : String} {now : Instant} {left : Int} (read : codec.remaining now given = .ok left)
      (live : 0 < left) (reply : Reply Unit) :
      Revokes codec (some given)
        [⟨.store (.mark (markKey given) markText ⟨left.toNat⟩), reply⟩, .clock now]
        ((StoreCall.mark (markKey given) markText ⟨left.toNat⟩).outcome reply)

/-- How a logout ends.  Nobody's logout is turned down.  A logout whose budget is used up, or cannot
be told, is halted.  Any other has tried both to delete the session and to revoke the credential, if
one was given. -/
inductive LogoutEnds (service : Service) (context : Context) (token : Option String)
    (past : List Moment) : Except Failure Unit → Prop where
  | nobody (absent : context.actor = none) (areRecords : AreRecords past) :
      LogoutEnds service context token past (.error (.rejected .unauthenticated))
  | halted {identity : UserId} {records counting : List Moment} {failure : Failure}
      (actor : context.actor = some identity) (areRecords : AreRecords records)
      (counts : Counts service.limits .logout identity counting (.error failure))
      (did : past = records ++ counting) : LogoutEnds service context token past (.error failure)
  | tried {identity : UserId} {records counting revoking : List Moment} {reply : Reply Unit}
      {revoked : Except Failure Unit} (actor : context.actor = some identity)
      (areRecords : AreRecords records)
      (counts : Counts service.limits .logout identity counting (.ok ()))
      (revokes : Revokes service.codec token revoking revoked)
      (did : past.Perm (records ++
        (⟨.store (.deleteSession identity), reply⟩ :: (revoking ++ counting)))) :
      LogoutEnds service context token past
        (((StoreCall.deleteSession identity).outcome reply).bind fun _ => revoked)

section Logouts

variable {service : Service} {codec : Codec} {context : Context} {token : Option String}
  {past : List Moment} {outcome : Except Failure Unit}

theorem ends_revoke (given : String) :
    (revoke codec given).Ends (Revokes codec (some given)) [] := by
  rw [revoke, Ends, meets_bind, meets_act]
  refine ⟨trivial, fun now => ?_⟩
  dsimp only
  rw [meets_bind, meets_ofVerdict]
  cases read : codec.remaining now given with
  | error rejection => exact .unreadable read
  | ok left =>
    change Operation.Ends _ (if left ≤ 0 then _ else _) _
    split
    · next ended => exact .spent read ended
    · next live => exact ends_call.2 fun reply => .marks read (Int.not_le.1 live) reply

theorem ends_revoking (token : Option String) :
    (match token with
      | some token => revoke codec token
      | none => pure ()).Ends (Revokes codec token) [] := by
  cases token with
  | none => exact .nothing
  | some given => exact ends_revoke given

theorem ends_deleteSession (identity : UserId) :
    (call (.deleteSession identity)).Ends (fun past deleted => ∃ reply,
      past = [⟨.store (.deleteSession identity), reply⟩] ∧
        deleted = (StoreCall.deleteSession identity).outcome reply) [] :=
  ends_call.2 fun reply => ⟨reply, rfl, rfl⟩

theorem LogoutEnds.records {record : List Moment} (ends : LogoutEnds service context token past outcome)
    (areRecords : AreRecords record) : LogoutEnds service context token (record ++ past) outcome := by
  cases ends with
  | nobody absent records =>
    exact .nobody absent (List.forall_mem_append.2 ⟨areRecords, records⟩)
  | halted actor records counts did =>
    refine .halted actor (List.forall_mem_append.2 ⟨areRecords, records⟩) counts ?_
    rw [did, List.append_assoc]
  | tried actor records counts revokes did =>
    refine .tried actor (List.forall_mem_append.2 ⟨areRecords, records⟩) counts revokes ?_
    rw [List.append_assoc]
    exact did.append_left record

theorem ends_endSessionAlong (turns : List Bool) :
    (service.endSessionAlong turns context token).Ends (LogoutEnds service context token) [] := by
  unfold Service.endSessionAlong
  cases actor : context.actor with
  | none => exact .nobody actor (List.forall_mem_nil _)
  | some identity =>
    dsimp only
    rw [Ends, meets_bind]
    refine Ends.mono ends_enforce ?_
    rintro _ outcome ⟨records, counting, areRecords, counts, rfl⟩
    rw [List.append_nil]
    cases outcome with
    | error failure => exact .halted actor areRecords counts rfl
    | ok _ =>
      dsimp only
      rw [meets_bind, meets_lift]
      have tolerant : Program.Tolerant fun _ _ => True := fun _ _ _ _ _ => trivial
      refine Program.Meets.mono (Program.meets_beside tolerant (ends_deleteSession identity)
        (ends_revoking token) (List.Perm.refl _) turns) (fun _ _ allowed => allowed) ?_
      rintro past ⟨_, revoked⟩ ⟨_, revoking, did, ⟨reply, rfl, rfl⟩, revokes⟩
      have moved := did.trans (List.perm_append_comm_assoc
        ([⟨.store (.deleteSession identity), reply⟩] ++ revoking) records counting)
      have ends := LogoutEnds.tried actor areRecords counts revokes moved
      generalize (StoreCall.deleteSession identity).outcome reply = deleted at ends ⊢
      cases deleted with
      | error failure => exact ends
      | ok _ => exact ends

end Logouts

end SignOn.Engine
