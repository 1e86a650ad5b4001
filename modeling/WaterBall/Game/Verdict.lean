import WaterBall.Game.OwnSteps

/-!
# The verdict of one device

A device that has shown PASS is behind its peer's score, and stays behind: its
score does not move again before the next game, and the peer's only grows.
-/

namespace WaterBall

/-- The call that `game_print_end` makes in its PASS branch alone. -/
def passCall : DeviceCall := .sevenSegmentSetCharDigits scoreAddress 0 "PASS" .none

-- ---------------------------------------------------------------------------
-- Who shows PASS
-- ---------------------------------------------------------------------------

theorem not_mem_of_isDisplay {calls : List DeviceCall}
    (h : ∀ call ∈ calls, call.isDisplay = false) : passCall ∉ calls :=
  fun hmem => Bool.false_ne_true (h passCall hmem).symm

theorem gameSetMyScore_silent (d : Device) (score : UInt32) :
    passCall ∉ (gameSetMyScore d score).2 := by
  refine not_mem_of_isDisplay fun call hcall => ?_
  cases hserver : d.isServiceServer with
  | true =>
    rw [gameSetMyScore_asServer hserver] at hcall
    rw [mem_hvxSend hcall]
    rfl
  | false =>
    cases hclient : d.isServiceClient with
    | true =>
      rw [gameSetMyScore_asClient hserver hclient] at hcall
      rw [List.mem_singleton.mp hcall]
      rfl
    | false =>
      rw [gameSetMyScore_alone hserver hclient] at hcall
      cases hcall

theorem gameIndicateState_silent (d : Device) (state : GameState) :
    passCall ∉ gameIndicateState d state := by
  refine not_mem_of_isDisplay fun call hcall => ?_
  unfold gameIndicateState at hcall
  split at hcall
  · rw [mem_hvxSend hcall]
    rfl
  · cases hcall

theorem gamePrintStart_silent (ms : UInt32) : passCall ∉ gamePrintStart ms := by
  have htime : ∀ text, passCall ≠ .sevenSegmentSetCharDigits timeAddress 0 text .none := by
    intro text h
    injection h with haddress
    revert haddress
    decide
  have hplay : passCall ≠ .sevenSegmentSetCharDigits scoreAddress 0 "PLAY" .none := by decide
  unfold gamePrintStart
  dsimp only
  split
  · simp [htime, hplay]
  · simp [htime]

theorem gamePrintScore_silent (ms myScore theirScore : UInt32) :
    passCall ∉ gamePrintTime ms .auto ++ gamePrintScore myScore theirScore := by
  simp [gamePrintTime, gamePrintScore, passCall]

theorem passCall_mem_gamePrintEnd (h : passCall ∈ gamePrintEnd myScore theirScore) :
    myScore < theirScore := by
  by_cases hle : theirScore ≤ myScore
  · have hfail : passCall ∉ [.sevenSegmentSetCharDigits scoreAddress 0 "FAIL" .none,
        .sevenSegmentSetCharDigits timeAddress 0 "FAIL" .none] := by decide
    unfold gamePrintEnd at h
    rw [if_pos hle] at h
    exact absurd h hfail
  · exact UInt32.not_le.mp hle

theorem serviceOnBleEvt_silent (h : serviceOnBleEvt uninit d evt = some (d', calls)) :
    passCall ∉ calls := by
  obtain ⟨client, clientCalls, server, serverCalls, -, -, -, rfl⟩ := serviceOnBleEvt_ends h
  refine not_mem_of_isDisplay fun call hcall => ?_
  rcases List.mem_append.mp hcall with hcall | hcall
  · obtain ⟨clientCall, -, rfl⟩ := List.mem_map.mp hcall
    rfl
  · obtain ⟨serverCall, -, rfl⟩ := List.mem_map.mp hcall
    rfl

-- ---------------------------------------------------------------------------
-- Fair verdicts
-- ---------------------------------------------------------------------------

/-- Where a device is after its verdict, until it enters the next game. -/
def GameState.Over (state : GameState) : Prop :=
  state = .water ∨ state = .init ∨ state = .waiting

/-- `theirs` is the peer's score, `passed` says that the device has shown PASS. -/
structure Device.Fair (theirs : UInt32) (passed : Prop) (d : Device) : Prop where
  fresh : d.game.gameState = .initializingGame → d.game.myScore = 0
  behind : passed → d.game.gameState.Over ∧ d.game.myScore < theirs

theorem Device.Fair.mono (h : Device.Fair theirs passed d) (hle : theirs ≤ theirs')
    (hpassed : passed' → passed) : d.Fair theirs' passed' := by
  refine ⟨h.fresh, fun hp => ?_⟩
  obtain ⟨hover, hlt⟩ := h.behind (hpassed hp)
  exact ⟨hover, UInt32.lt_of_lt_of_le hlt hle⟩

theorem Device.Fair.not_passed (h : Device.Fair theirs passed d) (hover : ¬ d.game.gameState.Over) :
    ¬ passed := fun hp => hover (h.behind hp).1

theorem Device.Fair.enter {d d' : Device} (h : Device.Fair theirs passed d)
    (hscore : d'.game.myScore = d.game.myScore)
    (hentry : d'.game.gameState = .initializingGame → d.game.gameState = .initializingGame)
    (hover : passed → d'.game.gameState.Over) : d'.Fair theirs passed := by
  refine ⟨fun hstate => hscore.trans (h.fresh (hentry hstate)), fun hp => ⟨hover hp, ?_⟩⟩
  rw [hscore]
  exact (h.behind hp).2

/-- The events of a contest. -/
def DeviceEvent.isPlay : DeviceEvent → Bool
  | button _ _ => true
  | gameTasks _ => true
  | _ => false

/-- What a step of the contest keeps. -/
structure PlayStep (theirs : UInt32) (passed : Prop) (d d' : Device) (calls : List DeviceCall) :
    Prop where
  fair : d'.Fair theirs (passed ∨ passCall ∈ calls)
  grows : d.game.myScore ≤ d'.game.myScore
  client : d'.client = d.client

theorem PlayStep.silent {d d' : Device} (h : Device.Fair theirs passed d')
    (hgrows : d.game.myScore ≤ d'.game.myScore) (hclient : d'.client = d.client)
    (hcalls : passCall ∉ calls) : PlayStep theirs passed d d' calls :=
  ⟨h.mono (UInt32.le_refl _) fun hp => hp.resolve_right hcalls, hgrows, hclient⟩

theorem PlayStep.inGame {d d' : Device} (h : Device.Fair theirs passed d)
    (hover : ¬ d.game.gameState.Over) (hgrows : d.game.myScore ≤ d'.game.myScore)
    (hclient : d'.client = d.client)
    (hfresh : d'.game.gameState = .initializingGame → d'.game.myScore = 0)
    (hcalls : passCall ∉ calls) : PlayStep theirs passed d d' calls :=
  .silent ⟨hfresh, fun hp => absurd hp (h.not_passed hover)⟩ hgrows hclient hcalls

theorem not_over_of_eq {state state' : GameState} (h : state = state') (hover : ¬ state'.Over) :
    ¬ state.Over := h ▸ hover

instance (state : GameState) : Decidable state.Over := inferInstanceAs (Decidable (_ ∨ _ ∨ _))

section
variable {d : Device} {theirs : UInt32} {passed : Prop}

theorem Device.Fair.score (h : Device.Fair theirs passed d) (hstate : d.game.gameState = .playing)
    {score : UInt32} (hle : d.game.myScore ≤ score) :
    PlayStep theirs passed d (gameSetMyScore d score).1 (gameSetMyScore d score).2 := by
  refine .inGame h (not_over_of_eq hstate (by decide)) ?_ (gameSetMyScore_client d score) ?_
    (gameSetMyScore_silent d score)
  · rw [gameSetMyScore_game]
    exact hle
  · rw [gameSetMyScore_game]
    intro hfresh
    cases hstate.symm.trans hfresh

theorem Device.Fair.button (h : Device.Fair theirs passed d) (pin : Button) (action : ButtonAction)
    (hentry : (gameEventHandler d pin action).1.game.gameState = .initializingGame →
      d.game.gameState = .initializingGame) :
    PlayStep theirs passed d (gameEventHandler d pin action).1
      (gameEventHandler d pin action).2 := by
  have hstop : PlayStep theirs passed d { d with game.gameState := .init } [] :=
    .silent (h.enter rfl nofun fun _ => .inr (.inl rfl)) (UInt32.le_refl _) rfl List.not_mem_nil
  have hstay : PlayStep theirs passed d d [] :=
    .silent h (UInt32.le_refl _) rfl List.not_mem_nil
  unfold gameEventHandler at hentry ⊢
  split
  · exact hstay
  case isFalse hpush =>
    rw [if_neg hpush] at hentry
    cases pin with
    | button1 => exact hstay
    | button2 =>
      dsimp only at hentry ⊢
      split
      case isTrue hwaiting =>
        rw [if_pos hwaiting] at hentry
        cases hwaiting.symm.trans (hentry rfl)
      case isFalse => exact hstop
    | button3 =>
      dsimp only
      split
      case isTrue hplaying =>
        rw [gameIncrementMyScore_eq]
        exact h.score hplaying (le_incremented _ _)
      case isFalse => exact hstay
    | button4 =>
      dsimp only at hentry ⊢
      split
      case isTrue hwaiting =>
        rw [if_pos hwaiting] at hentry
        cases hwaiting.1.symm.trans (hentry rfl)
      case isFalse =>
        split
        case isTrue hplaying =>
          have hlt := UInt32.toNat_lt d.game.myScore
          exact h.score hplaying (UInt32.le_iff_toNat_le.mpr (Nat.le_of_lt_succ hlt))
        case isFalse => exact hstop

/-- The verdict falls on a view that lags behind. -/
theorem Device.Fair.turn (h : Device.Fair theirs passed d) (hview : d.theirView ≤ theirs)
    (hturn : GameTurn d d' calls) : PlayStep theirs passed d d' calls := by
  cases hturn with
  | stop =>
    refine .silent (h.enter rfl nofun fun _ => .inr (.inr rfl)) (UInt32.le_refl _) rfl ?_
    intro hmem
    rcases List.mem_append.mp hmem with hmem | hmem
    · exact gameIndicateState_silent d .init hmem
    · revert hmem
      decide
  | begin ticks hstate hset =>
    have hgame := gameSetMyScore_game
      { d with game.theirScore := d.theirView, game.gameInitTicks := ticks } 0
    have hclient := gameSetMyScore_client
      { d with game.theirScore := d.theirView, game.gameInitTicks := ticks } 0
    have hsilent := gameSetMyScore_silent
      { d with game.theirScore := d.theirView, game.gameInitTicks := ticks } 0
    rw [hset] at hgame hclient hsilent
    refine .inGame h (not_over_of_eq hstate (by decide)) ?_ hclient nofun ?_
    · rw [h.fresh hstate]
      exact UInt32.le_iff_toNat_le.mpr (Nat.zero_le _)
    · intro hmem
      rcases List.mem_append.mp hmem with hmem | hmem
      · exact gameIndicateState_silent d .initializingGame hmem
      · exact hsilent hmem
  | countDown ms state hstate hnext =>
    refine .inGame h (not_over_of_eq hstate (by decide)) (UInt32.le_refl _) rfl ?_
      (gamePrintStart_silent ms)
    rcases hnext with rfl | rfl <;> nofun
  | play ticks hstate =>
    exact .inGame h (not_over_of_eq hstate (by decide)) (UInt32.le_refl _) rfl nofun
      List.not_mem_nil
  | score ms state hstate hnext =>
    refine .inGame h (not_over_of_eq hstate (by decide)) (UInt32.le_refl _) rfl ?_
      (gamePrintScore_silent ms _ _)
    rcases hnext with rfl | rfl <;> nofun
  | verdict ticks led3 hstate =>
    refine ⟨⟨nofun, ?_⟩, UInt32.le_refl _, rfl⟩
    rintro (hp | hpass)
    · exact absurd hp (h.not_passed (not_over_of_eq hstate (by decide)))
    · exact ⟨.inl rfl, UInt32.lt_of_lt_of_le (passCall_mem_gamePrintEnd hpass) hview⟩
  | dry =>
    exact .silent (h.enter rfl nofun fun _ => .inr (.inl rfl)) (UInt32.le_refl _) rfl
      List.not_mem_nil
  | wait =>
    exact .silent (h.enter rfl id fun hp => (h.behind hp).1) (UInt32.le_refl _) rfl
      List.not_mem_nil

theorem Device.Fair.play (h : Device.Fair theirs passed d) (hview : d.theirView ≤ theirs)
    (hplay : event.isPlay = true) (hone : deviceStep t d event = some (d', calls))
    (hentry : d'.game.gameState = .initializingGame → d.game.gameState = .initializingGame) :
    PlayStep theirs passed d d' calls := by
  cases event with
  | button pin action =>
    have hends : gameEventHandler d pin action = (d', calls) := Option.some.inj hone
    have hbutton := h.button pin action
    rw [hends] at hbutton
    exact hbutton hentry
  | gameTasks now =>
    have hends : gameTasks t d now = (d', calls) := Option.some.inj hone
    have hturn := gameTasks_turn t d now
    rw [hends] at hturn
    exact h.turn hview hturn
  | _ => cases hplay

theorem Device.Fair.take {state : GameState} (h : Device.Fair theirs passed d)
    (hstate : state = .init ∨ state = .initializingGame)
    (hentry : state = .initializingGame → d.game.gameState = .initializingGame) :
    Device.Fair theirs passed { d with game.gameState := state } := by
  refine h.enter rfl hentry fun hp => ?_
  rcases hstate with rfl | rfl
  · exact .inr (.inl rfl)
  · have hover := (h.behind hp).1
    rw [hentry rfl] at hover
    exact absurd hover (by decide)

end

end WaterBall
