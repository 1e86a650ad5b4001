import WaterBall.Support.Mirror
import WaterBall.Support.Runs
import WaterBall.Radio.Matching

/-!
# Flags and radio

A flag may be set while the radio is not in its activity any more, but then the
event that clears it is on its way. That is kept by every step but a few: the
start of a scan is not checked, an activity may start again before its timeout
has arrived, and an attempt before the connection that came first.
-/

namespace WaterBall

open Support

-- ---------------------------------------------------------------------------
-- Events on their way
-- ---------------------------------------------------------------------------

/-- What an event says about the link. -/
def GapEvt.link : GapEvt → Option Bool
  | .connected _ _ => some true
  | .disconnected => some false
  | _ => none

def Gap.links (g : Gap) : List Bool := g.events.filterMap GapEvt.link

def Gap.linked (g : Gap) : Bool := g.centralLink || g.peripheralLink

/-- The flags and what the radio does, with the events between them. A flag is
set with its activity (`_on`), and outlives it no longer than an event is on
its way (`_off`); a timeout on its way is about an activity that is over. -/
structure Tracks (f : Flags) (g : Gap) : Prop where
  advertising_on : g.advertising = true → f.advertising = true
  advertising_off : f.advertising = true →
    g.advertising = true ∨ .timeout .advertising ∈ g.events ∨ true ∈ g.links
  advertising_timeout : .timeout .advertising ∈ g.events → g.advertising = false
  scanning_on : g.scanning = true → f.discovering = true
  scanning_off : f.discovering = true → g.scanning = true ∨ .timeout .scan ∈ g.events
  scanning_timeout : .timeout .scan ∈ g.events → g.scanning = false
  connecting_on : g.connecting.isSome = true → f.connecting = true
  connecting_off : f.connecting = true →
    g.connecting.isSome = true ∨ .timeout .conn ∈ g.events ∨ true ∈ g.links
  attempt : g.connecting.isSome = true → g.advertising = false ∧ f.connected = false ∧
    .timeout .conn ∉ g.events ∧ true ∉ g.links
  central : g.centralLink = true → g.advertising = false ∧ g.peripheralLink = false ∧
    (f.connected = true ∨ f.connecting = true) ∧ .timeout .conn ∉ g.events ∧ false ∉ g.links
  peripheral : g.peripheralLink = true → g.advertising = false
  links : Mirror.Switches f.connected g.links g.linked

theorem tracks_boot : Tracks radioBoot.flags radioBoot.gap := by
  constructor <;> simp [Radio.flags, radioBoot_eq, radioReset, Radio.isConnected,
    Radio.isAdvertising, Radio.isDiscovering, Radio.isConnecting, statusIsSet, Gap.links,
    Gap.linked]

section
variable {f : Flags} {g : Gap}

/-- Where no connection is on its way to clear flags, there is no link. -/
theorem Tracks.unlinked (h : Tracks f g) (hk : f.connected = false) (hq : true ∉ g.links) :
    g.links = [] ∧ g.centralLink = false ∧ g.peripheralLink = false := by
  have hlinks := h.links
  rw [hk] at hlinks
  obtain ⟨hnil, hlinked⟩ := hlinks.eq_nil hq
  exact ⟨hnil, Bool.or_eq_false_iff.mp hlinked.symm⟩

theorem Tracks.advertising_stops (h : Tracks f g) :
    (g.advertising && !f.advertising) = false := by
  cases ha : g.advertising with
  | false => rfl
  | true => rw [h.advertising_on ha]; rfl

theorem Tracks.scanning_stops (h : Tracks f g) : (g.scanning && !f.discovering) = false := by
  cases hs : g.scanning with
  | false => rfl
  | true => rw [h.scanning_on hs]; rfl

-- ---------------------------------------------------------------------------
-- What the modules do
-- ---------------------------------------------------------------------------

theorem Tracks.stopAdvertising (h : Tracks f g) :
    Tracks { f with advertising := false } { g with advertising := false } :=
  { h with
    advertising_on := nofun
    advertising_off := nofun
    advertising_timeout := fun _ => rfl
    attempt := fun hc => ⟨rfl, (h.attempt hc).2⟩
    central := fun hl => ⟨rfl, (h.central hl).2⟩
    peripheral := fun _ => rfl }

theorem Tracks.stopScanning (h : Tracks f g) :
    Tracks { f with discovering := false } { g with scanning := false } :=
  { h with
    scanning_on := nofun
    scanning_off := nofun
    scanning_timeout := fun _ => rfl }

theorem Tracks.startAdvertising (h : Tracks ⟨false, false, false, false⟩ g)
    (hlink : g.peripheralLink = false) (hq : .timeout .advertising ∉ g.events) :
    Tracks ⟨false, true, false, false⟩ { g with advertising := true } :=
  { h with
    advertising_on := fun _ => rfl
    advertising_off := fun _ => .inl rfl
    advertising_timeout := fun ht => absurd ht hq
    attempt := fun hc => absurd (h.connecting_on hc) Bool.false_ne_true
    central := fun hl => absurd (h.central hl).2.2.1 (by simp)
    peripheral := fun hp => absurd hp (by simp [hlink]) }

/-- A scan that is asked for while nothing else keeps the SoftDevice from it. -/
theorem Tracks.startScanning (h : Tracks f g) (hd : f.discovering = false)
    (hc : f.connecting = false) (hq : .timeout .scan ∉ g.events) :
    Tracks { f with discovering := true } (sdBleGapScanStart g nrfSuccess).1 := by
  have hscan : g.scanning = false := by
    by_contra hs
    rw [h.scanning_on (Bool.not_eq_false _ ▸ hs)] at hd
    cases hd
  have hattempt : g.connecting = none := by
    rw [← Option.not_isSome_iff_eq_none]
    intro hs
    rw [h.connecting_on hs] at hc
    cases hc
  rw [sdBleGapScanStart_success g hscan hattempt]
  exact { h with
    scanning_on := fun _ => rfl
    scanning_off := fun _ => .inl rfl
    scanning_timeout := fun ht => absurd ht hq }

theorem Tracks.cancel_gap (h : Tracks f g) :
    (if f.connecting then { g with connecting := none } else g) =
      { g with connecting := none } := by
  split
  · rfl
  case isFalse hc =>
    have hnone := Option.not_isSome_iff_eq_none.mp fun hs => hc (h.connecting_on hs)
    rw [← hnone]

theorem Tracks.cancel (h : Tracks f g)
    (hpending : f.connecting = true → g.connecting.isSome = true) :
    Tracks { f with connecting := false } { g with connecting := none } := by
  refine { h with
    connecting_on := nofun
    connecting_off := nofun
    attempt := nofun
    central := ?_ }
  intro hl
  obtain ⟨hadv, hper, hflag, hq⟩ := h.central hl
  refine ⟨hadv, hper, .inl ?_, hq⟩
  rcases hflag with hk | hc
  · exact hk
  · obtain ⟨-, hk, -, hlinks⟩ := h.attempt (hpending hc)
    cases hl.symm.trans (h.unlinked hk hlinks).2.1

/-- An attempt begins: nothing else goes on, and no link is there or on its way. -/
theorem Tracks.connect (h : Tracks f g) (hk : f.connected = false)
    (hq : .timeout .conn ∉ g.events) (hlinks : true ∉ g.links) (address : GapAddr) :
    Tracks ⟨false, false, false, true⟩
      { g with advertising := false, connecting := some address, scanning := false } := by
  obtain ⟨hnil, hcentral, hper⟩ := h.unlinked hk hlinks
  exact { h with
    advertising_on := nofun
    advertising_off := nofun
    advertising_timeout := fun _ => rfl
    scanning_on := nofun
    scanning_off := nofun
    scanning_timeout := fun _ => rfl
    connecting_on := fun _ => rfl
    connecting_off := fun _ => .inl rfl
    attempt := fun _ => ⟨rfl, rfl, hq, hlinks⟩
    central := fun hl => by cases hl.symm.trans hcentral
    peripheral := fun _ => rfl
    links := hk ▸ h.links }

-- ---------------------------------------------------------------------------
-- What the SoftDevice does
-- ---------------------------------------------------------------------------

@[simp] theorem Gap.links_queue (g : Gap) (evt : GapEvt) :
    (g.queue evt).links = g.links ++ evt.link.toList := by
  simp only [Gap.links, Gap.queue, List.filterMap_append]
  cases evt <;> rfl

@[simp] theorem Gap.advertising_queue (g : Gap) (evt : GapEvt) :
    (g.queue evt).advertising = g.advertising := rfl

@[simp] theorem Gap.connecting_queue (g : Gap) (evt : GapEvt) :
    (g.queue evt).connecting = g.connecting := rfl

@[simp] theorem Gap.centralLink_queue (g : Gap) (evt : GapEvt) :
    (g.queue evt).centralLink = g.centralLink := rfl

@[simp] theorem Gap.peripheralLink_queue (g : Gap) (evt : GapEvt) :
    (g.queue evt).peripheralLink = g.peripheralLink := rfl

@[simp] theorem Gap.mem_queue {g : Gap} {evt evt' : GapEvt} :
    evt' ∈ (g.queue evt).events ↔ evt' ∈ g.events ∨ evt' = evt := by
  simp [Gap.queue]

theorem Gap.mem_queue_of {g : Gap} {evt evt' : GapEvt} (h : evt' ∈ g.events) :
    evt' ∈ (g.queue evt).events := Gap.mem_queue.mpr (.inl h)

/-- An event that is not about an activity. -/
theorem Tracks.queue (h : Tracks f g) {evt : GapEvt} (hlink : evt.link = none)
    (htimeout : ∀ src, evt = .timeout src → src = .securityRequest) : Tracks f (g.queue evt) := by
  have hlinks : (g.queue evt).links = g.links := by simp [hlink]
  have hmem : ∀ src, src ≠ .securityRequest →
      (.timeout src ∈ (g.queue evt).events ↔ .timeout src ∈ g.events) := by
    intro src hsrc
    rw [Gap.mem_queue, or_iff_left]
    intro heq
    exact hsrc (htimeout src heq.symm)
  have hadv := hmem .advertising nofun
  have hscan := hmem .scan nofun
  have hconn := hmem .conn nofun
  exact { h with
    advertising_off := by rw [hadv, hlinks]; exact h.advertising_off
    advertising_timeout := by rw [hadv]; exact h.advertising_timeout
    scanning_off := by rw [hscan]; exact h.scanning_off
    scanning_timeout := by rw [hscan]; exact h.scanning_timeout
    connecting_off := by rw [hconn, hlinks]; exact h.connecting_off
    attempt := by rw [hconn, hlinks]; exact h.attempt
    central := by rw [hconn, hlinks]; exact h.central
    links := by rw [hlinks]; exact h.links }

theorem Tracks.linkCentral (h : Tracks f g) (hs : g.connecting.isSome = true)
    (connHandle : UInt16) :
    Tracks f ({ g with connecting := none, centralLink := true }.queue
      (.connected .central connHandle)) := by
  obtain ⟨hadv, hk, hconn, hlinks⟩ := h.attempt hs
  obtain ⟨hnil, -, hper⟩ := h.unlinked hk hlinks
  have hafter : Gap.links ({ g with connecting := none, centralLink := true }.queue
      (.connected .central connHandle)) = [true] := by
    rw [Gap.links_queue]
    exact congrArg (· ++ [true]) hnil
  exact { h with
    advertising_off := fun _ => .inr (.inr (by simp [hafter]))
    advertising_timeout := fun _ => hadv
    scanning_off := fun hf => (h.scanning_off hf).imp_right Gap.mem_queue_of
    scanning_timeout := fun ht => h.scanning_timeout (by simpa using ht)
    connecting_on := nofun
    connecting_off := fun _ => .inr (.inr (by simp [hafter]))
    attempt := nofun
    central := fun _ => ⟨hadv, hper, .inr (h.connecting_on hs), by simpa using hconn,
      by simp [hafter]⟩
    links := by rw [hk, hafter]; exact ⟨rfl, rfl⟩ }

theorem Tracks.linkPeripheral (h : Tracks f g) (ha : g.advertising = true)
    (connHandle : UInt16) :
    Tracks f ({ g with advertising := false, peripheralLink := true }.queue
      (.connected .periph connHandle)) := by
  have hcentral : g.centralLink = false := by
    by_contra hl
    cases ha.symm.trans (h.central (Bool.not_eq_false _ ▸ hl)).1
  have hper : g.peripheralLink = false := by
    by_contra hl
    cases ha.symm.trans (h.peripheral (Bool.not_eq_false _ ▸ hl))
  have hafter : Gap.links ({ g with advertising := false, peripheralLink := true }.queue
      (.connected .periph connHandle)) = g.links ++ [true] := Gap.links_queue _ _
  exact { h with
    advertising_on := nofun
    advertising_off := fun _ => .inr (.inr (by simp [hafter]))
    advertising_timeout := fun _ => rfl
    scanning_off := fun hf => (h.scanning_off hf).imp_right Gap.mem_queue_of
    scanning_timeout := fun ht => h.scanning_timeout (by simpa using ht)
    connecting_off := fun _ => .inr (.inr (by simp [hafter]))
    attempt := fun hc => by cases ha.symm.trans (h.attempt hc).1
    central := fun hl => by cases hl.symm.trans hcentral
    peripheral := fun _ => rfl
    links := by
      have hlinks := h.links
      rw [Gap.linked, hcentral, hper] at hlinks
      rw [hafter, Gap.linked, Gap.queue, hcentral]
      exact hlinks.concat }

/-- The end of the only link. -/
theorem Tracks.unlink (h : Tracks f g) (hl : g.linked = true) :
    Tracks f ({ g with centralLink := false, peripheralLink := false }.queue .disconnected) := by
  have hafter : Gap.links ({ g with centralLink := false, peripheralLink := false }.queue
      .disconnected) = g.links ++ [false] := Gap.links_queue _ _
  have hmem : ∀ {v}, v ∈ g.links → v ∈ Gap.links
      ({ g with centralLink := false, peripheralLink := false }.queue .disconnected) := by
    intro v hv
    rw [hafter]
    exact List.mem_append_left _ hv
  exact { h with
    advertising_off := fun hf => (h.advertising_off hf).imp_right (.imp Gap.mem_queue_of hmem)
    advertising_timeout := fun ht => h.advertising_timeout (by simpa using ht)
    scanning_off := fun hf => (h.scanning_off hf).imp_right Gap.mem_queue_of
    scanning_timeout := fun ht => h.scanning_timeout (by simpa using ht)
    connecting_off := fun hf => (h.connecting_off hf).imp_right (.imp Gap.mem_queue_of hmem)
    attempt := by
      intro hc
      obtain ⟨-, hk, -, hlinks⟩ := h.attempt hc
      obtain ⟨-, hcentral, hper⟩ := h.unlinked hk hlinks
      rw [Gap.linked, hcentral, hper] at hl
      cases hl
    central := nofun
    peripheral := nofun
    links := by
      have hlinks := h.links
      rw [hl] at hlinks
      rw [hafter]
      exact hlinks.concat }

theorem Tracks.advertisingTimeout (h : Tracks f g) (ha : g.advertising = true) :
    Tracks f ({ g with advertising := false }.queue (.timeout .advertising)) := by
  have hafter : Gap.links ({ g with advertising := false }.queue (.timeout .advertising)) =
      g.links := (Gap.links_queue _ _).trans (List.append_nil _)
  exact { h with
    advertising_on := nofun
    advertising_off := fun _ => .inr (.inl (by simp))
    advertising_timeout := fun _ => rfl
    scanning_off := fun hf => (h.scanning_off hf).imp_right Gap.mem_queue_of
    scanning_timeout := fun ht => h.scanning_timeout (by simpa using ht)
    connecting_off := by
      rw [hafter]
      exact fun hf => (h.connecting_off hf).imp_right (.imp_left Gap.mem_queue_of)
    attempt := fun hc => by cases ha.symm.trans (h.attempt hc).1
    central := fun hl => by cases ha.symm.trans (h.central hl).1
    peripheral := fun _ => rfl
    links := by rw [hafter]; exact h.links }

theorem Tracks.scanTimeout (h : Tracks f g) :
    Tracks f ({ g with scanning := false }.queue (.timeout .scan)) := by
  have hafter : Gap.links ({ g with scanning := false }.queue (.timeout .scan)) = g.links :=
    (Gap.links_queue _ _).trans (List.append_nil _)
  exact { h with
    advertising_off := by
      rw [hafter]
      exact fun hf => (h.advertising_off hf).imp_right (.imp_left Gap.mem_queue_of)
    advertising_timeout := fun ht => h.advertising_timeout (by simpa using ht)
    scanning_on := nofun
    scanning_off := fun _ => .inr (by simp)
    scanning_timeout := fun _ => rfl
    connecting_off := by
      rw [hafter]
      exact fun hf => (h.connecting_off hf).imp_right (.imp_left Gap.mem_queue_of)
    attempt := by rw [hafter]; simpa using h.attempt
    central := by rw [hafter]; simpa using h.central
    links := by rw [hafter]; exact h.links }

theorem Tracks.connTimeout (h : Tracks f g) (hs : g.connecting.isSome = true) :
    Tracks f ({ g with connecting := none }.queue (.timeout .conn)) := by
  obtain ⟨hadv, hk, -, hlinks⟩ := h.attempt hs
  obtain ⟨-, hcentral, -⟩ := h.unlinked hk hlinks
  have hafter : Gap.links ({ g with connecting := none }.queue (.timeout .conn)) = g.links :=
    (Gap.links_queue _ _).trans (List.append_nil _)
  exact { h with
    advertising_off := by
      rw [hafter]
      exact fun hf => (h.advertising_off hf).imp_right (.imp_left Gap.mem_queue_of)
    advertising_timeout := fun ht => h.advertising_timeout (by simpa using ht)
    scanning_off := fun hf => (h.scanning_off hf).imp_right Gap.mem_queue_of
    scanning_timeout := fun ht => h.scanning_timeout (by simpa using ht)
    connecting_on := nofun
    connecting_off := fun _ => .inr (.inl (by simp))
    attempt := nofun
    central := fun hl => by cases hl.symm.trans hcentral
    links := by rw [hafter]; exact h.links }

theorem Tracks.air (h : Tracks f g) (change : GapChange) : Tracks f (gapStep g change) := by
  have hstep := gapStep_spec g change
  generalize gapStep g change = g' at hstep ⊢
  cases hstep with
  | idle => exact h
  | report report => exact h.queue rfl nofun
  | linkCentral connHandle hs => exact h.linkCentral hs connHandle
  | linkPeripheral connHandle ha => exact h.linkPeripheral ha connHandle
  | unlinkCentral hl =>
    have hgap : { g with centralLink := false } =
        { g with centralLink := false, peripheralLink := false } := by
      simp [(h.central hl).2.1]
    rw [hgap]
    exact h.unlink (by rw [Gap.linked, hl, Bool.true_or])
  | unlinkPeripheral hl =>
    have hcentral : g.centralLink = false := by
      by_contra hc
      cases hl.symm.trans (h.central (Bool.not_eq_false _ ▸ hc)).2.1
    have hgap : { g with peripheralLink := false } =
        { g with centralLink := false, peripheralLink := false } := by
      simp [hcentral]
    rw [hgap]
    exact h.unlink (by rw [Gap.linked, hl, Bool.or_true])
  | advertisingTimeout ha => exact h.advertisingTimeout ha
  | scanTimeout => exact h.scanTimeout
  | connTimeout hs => exact h.connTimeout hs
  | securityTimeout => exact h.queue rfl fun src hsrc => by cases hsrc; rfl

-- ---------------------------------------------------------------------------
-- Deliveries
-- ---------------------------------------------------------------------------

theorem Gap.links_cons {evt : GapEvt} {rest : List GapEvt} (hq : g.events = evt :: rest) :
    g.links = evt.link.toList ++ Gap.links { g with events := rest } := by
  rw [Gap.links, hq, List.filterMap_cons]
  cases evt <;> rfl

/-- An event that is no timeout leaves the timeouts that wait. -/
theorem timeout_mem_of_cons {evt : GapEvt} {rest : List GapEvt} (hq : g.events = evt :: rest)
    (src : TimeoutSrc) (hne : evt ≠ .timeout src) :
    .timeout src ∈ g.events ↔ .timeout src ∈ rest := by
  rw [hq, List.mem_cons, or_iff_right]
  exact fun heq => hne heq.symm

/-- An event that no flag waits for is taken from the queue. -/
theorem Tracks.pop (h : Tracks f g) {evt : GapEvt} {rest : List GapEvt}
    (hq : g.events = evt :: rest) (hlink : evt.link = none)
    (htimeout : ∀ src, evt = .timeout src → src = .securityRequest) :
    Tracks f { g with events := rest } := by
  have hlinks := Gap.links_cons hq
  rw [hlink, Option.toList_none, List.nil_append] at hlinks
  have hmem : ∀ src, src ≠ .securityRequest → (.timeout src ∈ g.events ↔ .timeout src ∈ rest) :=
    fun src hsrc => timeout_mem_of_cons hq src fun heq => hsrc (htimeout src heq)
  have hadv := hmem .advertising nofun
  have hscan := hmem .scan nofun
  have hconn := hmem .conn nofun
  exact { h with
    advertising_off := by rw [← hadv, ← hlinks]; exact h.advertising_off
    advertising_timeout := by rw [← hadv]; exact h.advertising_timeout
    scanning_off := by rw [← hscan]; exact h.scanning_off
    scanning_timeout := by rw [← hscan]; exact h.scanning_timeout
    connecting_off := by rw [← hconn, ← hlinks]; exact h.connecting_off
    attempt := by rw [← hconn, ← hlinks]; exact h.attempt
    central := by rw [← hconn, ← hlinks]; exact h.central
    links := by rw [← hlinks]; exact h.links }

theorem Tracks.takeConnected (h : Tracks f g) {role : GapRole} {connHandle : UInt16}
    {rest : List GapEvt} (hq : g.events = .connected role connHandle :: rest) :
    Tracks { f with connected := true, advertising := false, connecting := false }
      { g with advertising := false, events := rest } := by
  have hlinks : g.links = true :: Gap.links { g with advertising := false, events := rest } :=
    Gap.links_cons hq
  have hconn := timeout_mem_of_cons hq .conn nofun
  have hscan := timeout_mem_of_cons hq .scan nofun
  have hattempt : g.connecting.isSome ≠ true := fun hs => (h.attempt hs).2.2.2 (by simp [hlinks])
  exact { h with
    advertising_on := nofun
    advertising_off := nofun
    advertising_timeout := fun _ => rfl
    scanning_off := by rw [← hscan]; exact h.scanning_off
    scanning_timeout := by rw [← hscan]; exact h.scanning_timeout
    connecting_on := fun hs => absurd hs hattempt
    connecting_off := nofun
    attempt := fun hs => absurd hs hattempt
    central := by
      intro hl
      obtain ⟨-, hper, -, hq', hmem⟩ := h.central hl
      rw [hlinks] at hmem
      exact ⟨rfl, hper, .inl rfl, fun ht => hq' (hconn.mpr ht), fun hv =>
        hmem (List.mem_cons_of_mem _ hv)⟩
    peripheral := fun _ => rfl
    links := by
      have hswitch := h.links
      rw [hlinks] at hswitch
      exact hswitch.2 }

theorem Tracks.takeDisconnected (h : Tracks f g) {rest : List GapEvt}
    (hq : g.events = .disconnected :: rest) :
    Tracks { f with connected := false } { g with events := rest } := by
  have hlinks : g.links = false :: Gap.links { g with events := rest } := Gap.links_cons hq
  have hadv := timeout_mem_of_cons hq .advertising nofun
  have hscan := timeout_mem_of_cons hq .scan nofun
  have hconn := timeout_mem_of_cons hq .conn nofun
  have htrue : true ∈ g.links ↔ true ∈ Gap.links { g with events := rest } := by simp [hlinks]
  exact { h with
    advertising_off := by rw [← hadv, ← htrue]; exact h.advertising_off
    advertising_timeout := by rw [← hadv]; exact h.advertising_timeout
    scanning_off := by rw [← hscan]; exact h.scanning_off
    scanning_timeout := by rw [← hscan]; exact h.scanning_timeout
    connecting_off := by rw [← hconn, ← htrue]; exact h.connecting_off
    attempt := by
      intro hs
      obtain ⟨-, hk, -, hmem⟩ := h.attempt hs
      have hnil := (h.unlinked hk hmem).1
      rw [hlinks] at hnil
      cases hnil
    central := fun hl => absurd (h.central hl).2.2.2.2 (by simp [hlinks])
    links := by
      have hswitch := h.links
      rw [hlinks] at hswitch
      exact hswitch.2 }

theorem Tracks.takeAdvertisingTimeout (h : Tracks f g) {rest : List GapEvt}
    (hq : g.events = .timeout .advertising :: rest) :
    Tracks { f with advertising := false } { g with events := rest } := by
  have hlinks : g.links = Gap.links { g with events := rest } := Gap.links_cons hq
  have hscan := timeout_mem_of_cons hq .scan nofun
  have hconn := timeout_mem_of_cons hq .conn nofun
  have hover := h.advertising_timeout (hq ▸ List.mem_cons_self)
  exact { h with
    advertising_on := fun ha => by cases ha.symm.trans hover
    advertising_off := nofun
    advertising_timeout := fun _ => hover
    scanning_off := by rw [← hscan]; exact h.scanning_off
    scanning_timeout := by rw [← hscan]; exact h.scanning_timeout
    connecting_off := by rw [← hconn, ← hlinks]; exact h.connecting_off
    attempt := by rw [← hconn, ← hlinks]; exact h.attempt
    central := by rw [← hconn, ← hlinks]; exact h.central
    links := by rw [← hlinks]; exact h.links }

theorem Tracks.takeScanTimeout (h : Tracks f g) {rest : List GapEvt}
    (hq : g.events = .timeout .scan :: rest) :
    Tracks { f with discovering := false } { g with events := rest } := by
  have hlinks : g.links = Gap.links { g with events := rest } := Gap.links_cons hq
  have hadv := timeout_mem_of_cons hq .advertising nofun
  have hconn := timeout_mem_of_cons hq .conn nofun
  have hover := h.scanning_timeout (hq ▸ List.mem_cons_self)
  exact { h with
    advertising_off := by rw [← hadv, ← hlinks]; exact h.advertising_off
    advertising_timeout := by rw [← hadv]; exact h.advertising_timeout
    scanning_on := fun hs => by cases hs.symm.trans hover
    scanning_off := nofun
    scanning_timeout := fun _ => hover
    connecting_off := by rw [← hconn, ← hlinks]; exact h.connecting_off
    attempt := by rw [← hconn, ← hlinks]; exact h.attempt
    central := by rw [← hconn, ← hlinks]; exact h.central
    links := by rw [← hlinks]; exact h.links }

theorem Tracks.takeConnTimeout (h : Tracks f g) {rest : List GapEvt}
    (hq : g.events = .timeout .conn :: rest) :
    Tracks { f with connecting := false } { g with events := rest } := by
  have hlinks : g.links = Gap.links { g with events := rest } := Gap.links_cons hq
  have hadv := timeout_mem_of_cons hq .advertising nofun
  have hscan := timeout_mem_of_cons hq .scan nofun
  have hmem : .timeout .conn ∈ g.events := hq ▸ List.mem_cons_self
  exact { h with
    advertising_off := by rw [← hadv, ← hlinks]; exact h.advertising_off
    advertising_timeout := by rw [← hadv]; exact h.advertising_timeout
    scanning_off := by rw [← hscan]; exact h.scanning_off
    scanning_timeout := by rw [← hscan]; exact h.scanning_timeout
    connecting_on := fun hs => absurd hmem (h.attempt hs).2.2.1
    connecting_off := nofun
    attempt := fun hs => absurd hmem (h.attempt hs).2.2.1
    central := fun hl => absurd hmem (h.central hl).2.2.2.1
    links := by rw [← hlinks]; exact h.links }

/-- The oldest event is taken from the queue, and clears the flags that it ends. -/
theorem Tracks.take (h : Tracks f g) {evt : GapEvt} {rest : List GapEvt}
    (hq : g.events = evt :: rest) :
    Tracks (f.take evt) (Gap.afterEvt { g with events := rest } f evt) := by
  cases evt with
  | connected role connHandle =>
    unfold Gap.afterEvt
    dsimp only
    rw [h.advertising_stops]
    exact h.takeConnected hq
  | disconnected => exact h.takeDisconnected hq
  | timeout src =>
    cases src with
    | advertising => exact h.takeAdvertisingTimeout hq
    | securityRequest => exact h.pop hq rfl fun src hsrc => by cases hsrc; rfl
    | scan => exact h.takeScanTimeout hq
    | conn => exact h.takeConnTimeout hq
  | advReport report => exact h.pop hq rfl nofun

end

-- ---------------------------------------------------------------------------
-- Steps
-- ---------------------------------------------------------------------------

/-- The step asks the SoftDevice for a scan. -/
def Radio.startsScan (r : Radio) : RadioEvent → Bool
  | .main (.discoveryTasks _ _) =>
    r.storing.isNone && r.discoveryState == .discovering && r.isIdle
  | .storageResume _ => r.storing == some true && !r.isDiscovering && !r.isConnecting
  | _ => false

/-- The step asks it to advertise. -/
def Radio.startsAdvertising (r : Radio) : RadioEvent → Bool
  | .main (.advertiseTasks _) => r.storing.isNone && r.advertiseState == .advertising && r.isIdle
  | _ => false

/-- The step asks it to connect. -/
def Radio.startsAttempt (r : Radio) : RadioEvent → Bool
  | .main (.connectConnect _) => r.storing.isNone && !r.isConnected
  | .deliver =>
    match r.gap.events with
    | .advReport report :: _ => (discoveryMatches report).1 && !r.isConnected
    | _ => false
  | _ => false

def RadioEvent.refusal : RadioEvent → UInt32
  | .main (.discoveryTasks _ refusal) => refusal
  | .storageResume refusal => refusal
  | _ => nrfSuccess

/-- A scan that is asked for starts, and nothing starts while an event is on its
way that would clear its flag. -/
structure StartsOrderly (r : Radio) (event : RadioEvent) : Prop where
  scan : r.startsScan event = true →
    event.refusal = nrfSuccess ∧ .timeout .scan ∉ r.gap.events
  advertising : r.startsAdvertising event = true → .timeout .advertising ∉ r.gap.events
  attempt : r.startsAttempt event = true →
    .timeout .conn ∉ r.gap.events ∧ true ∉ r.gap.links

instance (r : Radio) (event : RadioEvent) : Decidable (StartsOrderly r event) :=
  decidable_of_iff
    ((r.startsScan event = true →
        event.refusal = nrfSuccess ∧ .timeout .scan ∉ r.gap.events) ∧
      (r.startsAdvertising event = true → .timeout .advertising ∉ r.gap.events) ∧
      (r.startsAttempt event = true → .timeout .conn ∉ r.gap.events ∧ true ∉ r.gap.links))
    ⟨fun h => ⟨h.1, h.2.1, h.2.2⟩, fun h => ⟨h.scan, h.advertising, h.attempt⟩⟩

section
variable {r r' : Radio}

theorem Tracks.attempts (h : Tracks r.flags r.gap) {address : GapAddr}
    (hstart : Attempts r r' address) (hq : .timeout .conn ∉ r.gap.events)
    (hlinks : true ∉ r.gap.links) : Tracks r'.flags r'.gap := by
  have hstops := h.advertising_stops
  rw [flags_advertising] at hstops
  rw [hstart.flags, hstart.gap, hstops]
  exact h.connect hstart.connected hq hlinks address

theorem Tracks.connectCancel (h : Tracks r.flags r.gap) (hok : connectCancel r = .ok r') :
    Tracks r'.flags r'.gap := by
  obtain ⟨hpending, hflags, hgap⟩ := connectCancel_ok hok
  rw [hflags, hgap, ← flags_connecting, h.cancel_gap]
  exact h.cancel hpending

theorem radioStep_tracks {event : RadioEvent} {calls : List RadioCall}
    (h : Tracks r.flags r.gap) (hstart : StartsOrderly r event)
    (hok : radioStep r event = .ok (r', calls)) : Tracks r'.flags r'.gap := by
  cases radioStep_move hok with
  | stay hflags hgap => rwa [hflags, hgap]
  | advertise button1 hevent hfree hstate hidle hper hflags hgap =>
    cases hevent
    have hq := hstart.advertising (by simp [Radio.startsAdvertising, hfree, hstate, hidle])
    rw [(isIdle_iff r).mp hidle] at h
    rw [hflags, hgap]
    exact h.startAdvertising hper hq
  | discover button1 refusal hevent hfree hstate hidle hflags hgap =>
    cases hevent
    obtain ⟨hrefusal, hq⟩ := hstart.scan (by simp [Radio.startsScan, hfree, hstate, hidle])
    cases hrefusal
    rw [(isIdle_iff r).mp hidle] at h
    rw [hflags, hgap]
    exact h.startScanning rfl rfl hq
  | resume refusal hevent hwas hd hc hflags hgap =>
    cases hevent
    obtain ⟨hrefusal, hq⟩ := hstart.scan (by simp [Radio.startsScan, hwas, hd, hc])
    cases hrefusal
    rw [hflags, hgap]
    exact h.startScanning hd hc hq
  | connect address hevent hfree hattempts =>
    cases hevent
    obtain ⟨hq, hlinks⟩ := hstart.attempt
      (by simp [Radio.startsAttempt, hfree, hattempts.connected])
    exact h.attempts hattempts hq hlinks
  | stopAdvertising hflags hgap =>
    have hstops := h.advertising_stops
    rw [flags_advertising] at hstops
    rw [hflags, hgap, hstops]
    exact h.stopAdvertising
  | stopScanning hflags hgap =>
    have hstops := h.scanning_stops
    rw [flags_discovering] at hstops
    rw [hflags, hgap, hstops]
    exact h.stopScanning
  | cancel hcancel => exact h.connectCancel hcancel
  | pause r₁ hcancel hflags hgap =>
    have h₁ := h.connectCancel hcancel
    have hstops := h₁.scanning_stops
    rw [flags_discovering] at hstops
    rw [hflags, hgap, hstops]
    exact h₁.stopScanning
  | take evt rest hevents hflags hgap =>
    rw [hflags, hgap]
    exact h.take hevents
  | found report rest hevent hevents hmatch hattempts =>
    cases hevent
    have hpop := h.pop hevents rfl nofun
    have hk : r.isConnected = false := hattempts.connected
    obtain ⟨hconn, hlinks⟩ := hstart.attempt
      (by simp [Radio.startsAttempt, hevents, hmatch, hk])
    rw [Gap.links_cons hevents] at hlinks
    rw [hevents] at hconn
    exact hpop.attempts hattempts (fun ht => hconn (List.mem_cons_of_mem _ ht)) hlinks
  | air change hflags hgap =>
    rw [hflags, hgap]
    exact h.air change

end

-- ---------------------------------------------------------------------------
-- Runs
-- ---------------------------------------------------------------------------

/-- Each flag is set exactly when the radio is in its activity. -/
structure Radio.Mirrors (r : Radio) : Prop where
  advertising : r.isAdvertising = r.gap.advertising
  discovering : r.isDiscovering = r.gap.scanning
  connecting : r.isConnecting = r.gap.connecting.isSome
  connected : r.isConnected = r.gap.linked

/-- The radio does nothing. -/
def Gap.Silent (g : Gap) : Prop :=
  g.advertising = false ∧ g.scanning = false ∧ g.connecting = none ∧ g.linked = false

/-- The next turn of the module that wants the radio starts it. -/
def Radio.StartsAgain (r : Radio) : Prop :=
  (r.discoveryState = .discovering → ∀ button1, ∃ r',
    radioStep r (.main (.discoveryTasks button1 nrfSuccess)) = .ok (r', []) ∧
      r'.gap.scanning = true) ∧
  (r.advertiseState = .advertising → ∀ button1, ∃ r',
    radioStep r (.main (.advertiseTasks button1)) = .ok (r', []) ∧ r'.gap.advertising = true)

section
variable {r : Radio}

theorem Tracks.mirrors (h : Tracks r.flags r.gap) (hquiet : r.gap.events = []) : r.Mirrors := by
  have hlinks : r.gap.links = [] := by rw [Gap.links, hquiet]; rfl
  have hadv := h.advertising_off
  have hscan := h.scanning_off
  have hconn := h.connecting_off
  simp only [hquiet, hlinks, List.not_mem_nil, or_false] at hadv hscan hconn
  have hswitch := h.links
  rw [hlinks] at hswitch
  exact ⟨Bool.eq_iff_iff.mpr ⟨hadv, h.advertising_on⟩, Bool.eq_iff_iff.mpr ⟨hscan, h.scanning_on⟩,
    Bool.eq_iff_iff.mpr ⟨hconn, h.connecting_on⟩, hswitch⟩

theorem Radio.Mirrors.idle (h : r.Mirrors) (hsilent : r.gap.Silent) : r.isIdle = true := by
  obtain ⟨hadv, hscan, hconn, hlinked⟩ := hsilent
  simp [isIdle_eq, h.advertising, h.discovering, h.connecting, h.connected, hadv, hscan, hconn,
    hlinked]

theorem startsAgain_of_idle (hidle : r.isIdle = true) (hsilent : r.gap.Silent)
    (hfree : r.storing = none) : r.StartsAgain := by
  obtain ⟨hadv, hscan, hconn, hlinked⟩ := hsilent
  constructor
  · intro hstate button1
    refine ⟨discoveryTasks r button1 nrfSuccess, by rw [radioStep, hfree]; rfl, ?_⟩
    rw [discoveryTasks_idle hstate hidle, gap_statusSet, sdBleGapScanStart_success _ hscan hconn]
  · intro hstate button1
    have hper := (Bool.or_eq_false_iff.mp hlinked).2
    have htask := advertiseTasks_idle hstate hidle button1
    rw [hadv, hper] at htask
    exact ⟨_, by rw [radioStep, hfree, radioTask, htask]; rfl, rfl⟩

/-- In every run that starts orderly the flags mirror the radio whenever no event
is on its way, and a radio that does nothing starts again. -/
theorem radio_mirrors (events : List RadioEvent) (r : Radio) (calls : List RadioCall)
    (hrun : Runs.run radioRun radioBoot events = some (r, calls))
    (hstart : Runs.Guarded radioRun StartsOrderly radioBoot events)
    (hquiet : r.gap.events = []) :
    r.Mirrors ∧ (r.gap.Silent → r.isIdle = true ∧ (r.storing = none → r.StartsAgain)) := by
  have htracks : Tracks r.flags r.gap := by
    refine hstart.keeps (P := fun r => Tracks r.flags r.gap) ?_ tracks_boot hrun
    intro r event r' out h hg hstep
    exact radioStep_tracks h hg (radioRun_eq_some.mp hstep)
  have hmirrors := htracks.mirrors hquiet
  refine ⟨hmirrors, fun hsilent => ?_⟩
  have hidle := hmirrors.idle hsilent
  exact ⟨hidle, startsAgain_of_idle hidle hsilent⟩

end

/-- The device finds the other one, is linked to it, and loses it again. -/
def meeting : List RadioEvent :=
  [.main (.discoveryTasks false nrfSuccess), .main (.discoveryTasks false nrfSuccess),
    .air (.report matchingReport), .deliver, .air (.linkCentral 0), .deliver,
    .air .unlinkCentral, .deliver]

theorem radio_mirrors_meeting : ∃ r calls,
    Runs.run radioRun radioBoot meeting = some (r, calls) ∧ calls = [.serviceTryConnect] ∧
      r.Mirrors ∧ r.isIdle = true ∧ r.StartsAgain := by
  have hfinal : (Runs.run radioRun radioBoot meeting).map
      (fun final => (final.1.gap, final.1.storing, final.2)) =
        some (⟨false, false, none, false, false, []⟩, none, [.serviceTryConnect]) := by
    decide +kernel
  obtain ⟨⟨r, calls⟩, hrun, heq⟩ := Option.map_eq_some_iff.mp hfinal
  obtain ⟨hgap, hfree, rfl⟩ : r.gap = ⟨false, false, none, false, false, []⟩ ∧
      r.storing = none ∧ calls = [.serviceTryConnect] := by simpa using heq
  obtain ⟨hmirrors, hidle⟩ := radio_mirrors meeting r _ hrun (by decide +kernel) (by rw [hgap])
  obtain ⟨hidle, hagain⟩ := hidle (hgap ▸ ⟨rfl, rfl, rfl, rfl⟩)
  exact ⟨r, _, hrun, rfl, hmirrors, hidle, hagain hfree⟩

/-- The SoftDevice refuses the scan. -/
def refusedScan : List RadioEvent :=
  [.main (.discoveryTasks false nrfSuccess), .main (.discoveryTasks false 4)]

theorem radio_mirrors_refused : ∃ r calls,
    Runs.run radioRun radioBoot refusedScan = some (r, calls) ∧ r.gap.events = [] ∧
      r.gap.Silent ∧ r.isIdle = false ∧ ¬ r.Mirrors := by
  refine ⟨_, _, rfl, rfl, ⟨rfl, rfl, rfl, rfl⟩, by decide +kernel, ?_⟩
  intro hmirrors
  exact absurd hmirrors.discovering (by decide +kernel)

end WaterBall
