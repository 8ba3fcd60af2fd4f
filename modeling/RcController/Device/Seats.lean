import RcController.Device.Loop
import RcController.Lib.Leases
import RcController.Wiring.Setup

/-!
# The seats

A connected device that has been accepted holds a seat, and the seat is marked taken. The
two records are kept by different callbacks, and a counter beside them; they agree in
every interleaving of the two cores, with one exception, which is exact
(`seats_iff`): a second `uni_hid_device_connect` on a device that holds a seat forgets
the seat, and nothing frees it any more.

As long as the records agree a device that becomes ready is given a free seat, and never
turned away for want of one (`ready_accepted`): there are as many seats as devices. That the
callback answers with success is not enough for this, as it does so too when its loop finds no
free seat.

`SeatsOk` is the invariant. Beside the agreement it says which devices can have the
index that says "no seat", and that a device is ready only with a seat.
-/

namespace RcController

open DeviceProg Runs

namespace Bridge

/-- The seat that a device holds. The index of a device that is not connected
means nothing: a slot of the device table that was never used, or has been
cleared, reads as index 0 there. -/
def held (s : Bridge) (d : DeviceIdx) : Option ControllerIdx :=
  if (s.devices d).connected then (s.devices d).controllerIdx else none

/-- The mark that the seat itself carries, `controllers_[i].taken` in the
source. -/
def taken (s : Bridge) (i : ControllerIdx) : Bool := (s.controllers i).taken

/-- **The records agree.** The devices say who holds what, the seats say whether
they are taken, and the counter says how many are. `leases` ties the first two
together (each taken seat has exactly one holder), `counted` the third. -/
structure SeatsAgree (s : Bridge) : Prop where
  leases : Leases s.held s.taken
  counted : s.usedControllers = (Leases.countOn (fun _ => True) s.taken : ℕ)

end Bridge

/-- What holds of one device between two callbacks. The index "no seat" belongs
to connected devices only (`opened`), and only a device with a seat is ready
(`ready`), so that a report that is passed on always finds a seat. A slot that
was never created is not connected. -/
structure HidDevice.Ok (dev : HidDevice) : Prop where
  created : dev.info = none → dev.connected = false
  opened : dev.controllerIdx = none → dev.connected = true
  ready : dev.state = .ready → dev.connected = true ∧ dev.controllerIdx.isSome = true

/-- A slot that has been cleared is in order: it is not connected, and its index
is 0 and not "no seat". -/
theorem HidDevice.ok_deleted : HidDevice.Ok {} where
  created _ := rfl
  opened h := by cases h
  ready h := by cases h

namespace Bridge

/-- **The invariant.** The three records agree, and each device is in order by
itself. The agreement alone is not kept by the events: whether a device that
becomes ready can be given a seat depends on what its index says while it is
connected. -/
structure SeatsOk (s : Bridge) : Prop extends SeatsAgree s where
  devices : ∀ d, (s.devices d).Ok

variable {s : Bridge} {d : DeviceIdx} {i : ControllerIdx}

/-! ### Updates -/

/-- Replacing a device changes what that device holds, and nothing else. This
and the next three lemmas turn the two kinds of update into updates of `held`
and `taken`, which is all that the agreement looks at. -/
@[simp] theorem held_setDevice (s : Bridge) (d : DeviceIdx) (dev : HidDevice) :
    (s.setDevice d dev).held =
      Function.update s.held d (if dev.connected then dev.controllerIdx else none) := by
  funext e
  by_cases he : e = d
  · subst he
    simp [held, setDevice]
  · simp [held, setDevice, he]

@[simp] theorem taken_setDevice (s : Bridge) (d : DeviceIdx) (dev : HidDevice) :
    (s.setDevice d dev).taken = s.taken := rfl

@[simp] theorem held_setSeat (s : Bridge) (i : ControllerIdx) (seat : Seat) :
    (s.setSeat i seat).held = s.held := rfl

/-- Replacing a seat changes its mark, and no other seat's. -/
@[simp] theorem taken_setSeat (s : Bridge) (i : ControllerIdx) (seat : Seat) :
    (s.setSeat i seat).taken = Function.update s.taken i seat.taken := by
  funext j
  by_cases hj : j = i
  · subst hj
    simp [taken, setSeat]
  · simp [taken, setSeat, hj]

/-- After a reset no device is there and no seat is taken. -/
theorem seatsOk_empty : SeatsOk {} where
  leases := Leases.none
  counted := by decide
  devices _ := HidDevice.ok_deleted

/-! ### One seat -/

/-- The seats after one of them has been replaced, read at any index. -/
theorem controllers_setSeat (s : Bridge) (j : ControllerIdx) (seat : Seat) (i : ControllerIdx) :
    (s.setSeat j seat).controllers i = if i = j then seat else s.controllers i := by
  by_cases hij : i = j
  · rw [if_pos hij, hij]
    exact Function.update_self ..
  · rw [if_neg hij]
    exact Function.update_of_ne hij ..

/-- The report that an event puts into seat `i`. A report is passed on only from
a device that is ready, and goes to the seat that the device names. -/
def received (i : ControllerIdx) (s : Bridge) : BtEvent → List ControllerData
  | .report d ctl =>
    if (s.devices d).state = .ready ∧ (s.devices d).controllerIdx = some i then [ctl] else []
  | .create _ | .connect _ | .setReady _ | .setReadyComplete _ | .lost _ => []

/-- The seat that a device is given when its setup is complete, if any. There is
none for a device that is ready already, when the counter says that all four
seats are in use, or when the device has an index; otherwise it is the first
seat that is not marked. -/
def admitted (d : DeviceIdx) (s : Bridge) : Option ControllerIdx :=
  if (s.devices d).state = .ready ∨ s.usedControllers = 4 ∨ (s.devices d).controllerIdx ≠ none then
    none
  else s.freeSeat

/-- The properties that it is given with it. -/
def propertiesOn (d : DeviceIdx) (s : Bridge) : ControllerProperties :=
  ((s.devices d).info.map propertiesOf).getD {}

/-- The event gives seat `i` to a device with the properties `p`. -/
def Admits (s : Bridge) (i : ControllerIdx) (p : ControllerProperties) : BtEvent → Prop
  | .setReadyComplete d => s.admitted d = some i ∧ s.propertiesOn d = p
  | .create _ | .connect _ | .setReady _ | .report _ _ | .lost _ => False

/-- **What an event can do to one seat.** Nothing; free it; put a report there;
or give it to a device, whose data is then whatever the seat still holds. Each
case says which report was received, if any, so that a history of reports can be
followed along the events. -/
inductive SeatStep (s : Bridge) (i : ControllerIdx) (e : BtEvent) : Seat → Prop
  | same (hreport : s.received i e = []) : SeatStep s i e (s.controllers i)
  | freed (hreport : s.received i e = []) : SeatStep s i e {}
  | put (ctl : ControllerData) (hreport : s.received i e = [ctl]) :
    SeatStep s i e { s.controllers i with data := ctl, dataUpdated := true }
  | given (p : ControllerProperties) (hreport : s.received i e = []) (hadmits : s.Admits i p e) :
    SeatStep s i e { s.controllers i with taken := true, properties := p }

/-- A device that is lost frees the seat it names, when it is connected, and
leaves the other ones alone. The event that leads here may be the loss itself or
a setup that was turned away, hence `e`. -/
theorem seatStep_lost (s : Bridge) (d : DeviceIdx) (i : ControllerIdx) {e : BtEvent}
    (hreport : s.received i e = []) :
    SeatStep s i e (((s.disconnect d).delete d).controllers i) := by
  change SeatStep s i e ((s.disconnect d).controllers i)
  unfold disconnect arduinoOnDeviceDisconnected
  dsimp only
  split
  · split
    · exact .same hreport
    · -- the seat of the device is cleared, and no other
      next j _ =>
      change SeatStep s i e ((s.setSeat j {}).controllers i)
      rw [controllers_setSeat]
      split
      · exact .freed hreport
      · exact .same hreport
  · exact .same hreport

/-- A device whose setup is complete is given a seat, or it is turned away and
deleted, or the seats stay as they are. The last case has two reasons: the
device was ready before, or the counter said that there was room and the search
found no free seat, which the callback does not notice. -/
theorem setReadyComplete_cases (s : Bridge) (d : DeviceIdx) :
    (s.setReadyComplete d).controllers = s.controllers ∨
      s.setReadyComplete d = (s.disconnect d).delete d ∨
      ∃ i, s.admitted d = some i ∧ (s.setReadyComplete d).controllers =
        (s.setSeat i { s.controllers i with
          taken := true, properties := s.propertiesOn d }).controllers := by
  unfold setReadyComplete
  by_cases hready : (s.devices d).state = .ready
  · exact .inl (by rw [if_pos hready])
  · rw [if_neg hready]
    -- the two tests of the source, and the search for a free seat
    by_cases hused : s.usedControllers = 4
    · exact .inr (.inl (by simp only [arduinoOnDeviceReady, if_pos hused]; rfl))
    · by_cases hidx : (s.devices d).controllerIdx ≠ none
      · exact .inr (.inl (by simp only [arduinoOnDeviceReady, if_neg hused, if_pos hidx]; rfl))
      · simp only [arduinoOnDeviceReady, if_neg hused, if_neg hidx]
        cases hfree : s.freeSeat with
        | none => exact .inl rfl
        | some i =>
          refine .inr (.inr ⟨i, ?_, rfl⟩)
          unfold admitted
          rw [if_neg (by simp [hready, hused, hidx]), hfree]

/-- The end of a setup, seen from one seat. -/
theorem seatStep_setReadyComplete (s : Bridge) (d : DeviceIdx) (i : ControllerIdx) :
    SeatStep s i (.setReadyComplete d) ((s.setReadyComplete d).controllers i) := by
  rcases setReadyComplete_cases s d with hsame | hlost | ⟨j, hadmitted, hgiven⟩
  · rw [hsame]
    exact .same rfl
  · rw [hlost]
    exact seatStep_lost s d i rfl
  · rw [hgiven, controllers_setSeat]
    split
    · next hij =>
      subst hij
      exact .given _ rfl ⟨hadmitted, rfl⟩
    · exact .same rfl

/-- A report, seen from one seat. The case split is the test of
`uni_hid_device_process_controller` and then the index; the other seats receive
nothing. -/
theorem seatStep_report (s : Bridge) (d : DeviceIdx) (ctl : ControllerData) (i : ControllerIdx) :
    SeatStep s i (.report d ctl) ((s.processController d ctl).controllers i) := by
  unfold processController arduinoOnControllerData
  by_cases hready : (s.devices d).state = .ready
  · rw [if_pos hready]
    cases hidx : (s.devices d).controllerIdx with
    | none => exact .same (if_neg (by simp [hidx]))
    | some j =>
      dsimp only
      rw [controllers_setSeat]
      split
      · -- the report is for this seat, or for another one
        next hij =>
        subst hij
        exact .put ctl (if_pos ⟨hready, hidx⟩)
      · next hij =>
        refine .same (if_neg fun hboth => hij ?_)
        rw [hidx] at hboth
        exact (Option.some.inj hboth.2).symm
  · rw [if_neg hready]
    exact .same (if_neg fun hboth => hready hboth.1)

/-- **What a Bluetooth event does to a seat**, one case for each event. The
properties over histories (`Device/Packets`, `Device/Swap`) use this lemma and
do not unfold the callbacks again. -/
theorem seatStep (s : Bridge) (e : BtEvent) (i : ControllerIdx) :
    SeatStep s i e ((s.step e).controllers i) := by
  cases e with
  | create info =>
    change SeatStep s i (.create info) ((s.create info).controllers i)
    unfold Bridge.create
    split <;> exact .same rfl
  | connect d => exact .same rfl
  | setReady d =>
    change SeatStep s i (.setReady d) ((s.setReady d).controllers i)
    unfold setReady
    split <;> exact .same rfl
  | setReadyComplete d => exact seatStep_setReadyComplete s d i
  | report d ctl => exact seatStep_report s d ctl i
  | lost d => exact seatStep_lost s d i rfl

/-- After an event that gives seat `i` to a device, the seat is taken and has
the properties of that device. This is the converse of the last case of
`SeatStep`. -/
theorem Admits.seat {p : ControllerProperties} {e : BtEvent} (h : s.Admits i p e) :
    ((s.step e).controllers i).taken = true ∧ ((s.step e).controllers i).properties = p := by
  cases e with
  | setReadyComplete d =>
    obtain ⟨hadmitted, rfl⟩ := h
    change ((s.setReadyComplete d).controllers i).taken = true ∧
      ((s.setReadyComplete d).controllers i).properties = _
    -- admitted, the device passed every test and a seat was free
    have hopen := hadmitted
    unfold admitted at hopen
    split at hopen
    · cases hopen
    · next hno =>
      rw [not_or, not_or] at hno
      obtain ⟨hready, hused, hidx⟩ := hno
      simp only [setReadyComplete, if_neg hready, arduinoOnDeviceReady, if_neg hused, if_neg hidx,
        hopen]
      change ((s.setSeat i _).controllers i).taken = true ∧
        ((s.setSeat i _).controllers i).properties = _
      rw [controllers_setSeat, if_pos rfl]
      exact ⟨rfl, rfl⟩
  | create info => cases h
  | connect d => cases h
  | setReady d => cases h
  | report d ctl => cases h
  | lost d => cases h

/-! ### The moves -/

/-- Devices stay in order when one of them is replaced. -/
theorem SeatsOk.devices_update {dev : HidDevice} (h : SeatsOk s) (hdev : dev.Ok) (e : DeviceIdx) :
    (Function.update s.devices d dev e).Ok :=
  (Function.forall_update_iff s.devices (p := fun _ dev => dev.Ok)).mpr
    ⟨hdev, fun e _ => h.devices e⟩ e

/-- A device changes without changing its seat. Whatever else changes in its
record, the agreement only looks at what it holds, so it is enough that this
stays. -/
theorem SeatsOk.setDevice {dev : HidDevice} (h : SeatsOk s) (hdev : dev.Ok)
    (hheld : (if dev.connected then dev.controllerIdx else none) = s.held d) :
    SeatsOk (s.setDevice d dev) where
  leases := h.leases.congr (by rw [held_setDevice, hheld, Function.update_eq_self]) rfl
  counted := h.counted
  devices := h.devices_update hdev

/-- A seat changes without being taken or freed, as when a report is put there
or read. -/
theorem SeatsOk.setSeat {seat : Seat} (h : SeatsOk s) (htaken : seat.taken = s.taken i) :
    SeatsOk (s.setSeat i seat) := by
  have hsame : (s.setSeat i seat).taken = s.taken := by
    rw [taken_setSeat, htaken, Function.update_eq_self]
  refine ⟨⟨h.leases.congr rfl hsame, ?_⟩, h.devices⟩
  rw [hsame]
  exact h.counted

/-- A device without a seat takes a free one. All three records move here: the
device gets the index, the seat its mark, and the counter goes up. None of the
callbacks does only a part of it, which is why the agreement survives. -/
theorem SeatsOk.assign {dev : HidDevice} {seat : Seat} (h : SeatsOk s) (hheld : s.held d = none)
    (hfree : s.taken i = false) (hdev : dev.Ok) (hconnected : dev.connected = true)
    (hidx : dev.controllerIdx = some i) (hseat : seat.taken = true) :
    SeatsOk { (s.setSeat i seat).setDevice d dev with
      usedControllers := s.usedControllers + 1 } := by
  have htaken : (s.setSeat i seat).taken = Function.update s.taken i true := by
    rw [taken_setSeat, hseat]
  refine ⟨⟨(h.leases.assign hheld hfree).congr ?_ htaken, ?_⟩, h.devices_update hdev⟩
  · refine (held_setDevice (s.setSeat i seat) d dev).trans ?_
    rw [hconnected, hidx]
    rfl
  · change s.usedControllers + 1 = (Leases.countOn (fun _ => True) (s.setSeat i seat).taken : ℕ)
    rw [htaken, Leases.countOn_assign _ hfree, if_pos trivial, h.counted]
    rfl

/-- A device gives its seat back and is deleted, and the counter goes down. The
seat was taken because the device held it, so the count before was at least
one. -/
theorem SeatsOk.release (h : SeatsOk s) (hheld : s.held d = some i) :
    SeatsOk { (s.setSeat i {}).setDevice d {} with
      usedControllers := s.usedControllers - 1 } := by
  have htaken : (s.setSeat i {}).taken = Function.update s.taken i false := taken_setSeat s i {}
  refine ⟨⟨(h.leases.release hheld).congr ?_ htaken, ?_⟩, h.devices_update HidDevice.ok_deleted⟩
  · exact held_setDevice (s.setSeat i {}) d {}
  · have hcount := Leases.countOn_release (fun _ => True) (h.leases.taken_of_held hheld)
    change s.usedControllers - 1 = (Leases.countOn (fun _ => True) (s.setSeat i {}).taken : ℕ)
    rw [htaken, h.counted, ← hcount, if_pos trivial]
    push_cast
    ring

/-- What is left of a device that is disconnected and deleted, in one piece:
with a seat, the seat is cleared and the counter goes down; without one, only
the record of the device is cleared. -/
theorem disconnect_delete (s : Bridge) (d : DeviceIdx) :
    (s.disconnect d).delete d =
      (s.held d).elim (s.setDevice d {}) fun i =>
        { (s.setSeat i {}).setDevice d {} with usedControllers := s.usedControllers - 1 } := by
  unfold disconnect held
  cases hconnected : (s.devices d).connected with
  | false => simp [delete, setDevice]
  | true =>
    simp only [if_true, arduinoOnDeviceDisconnected]
    cases hidx : (s.devices d).controllerIdx with
    | none => simp [delete, setDevice]
    | some i => simp [delete, setDevice, setSeat]

/-- A device that is lost, whether it held a seat or not. -/
theorem SeatsOk.lost (h : SeatsOk s) (d : DeviceIdx) : SeatsOk ((s.disconnect d).delete d) := by
  rw [disconnect_delete]
  cases hheld : s.held d with
  | none => exact h.setDevice HidDevice.ok_deleted hheld.symm
  | some i => exact h.release hheld

/-! ### The events -/

/-- A device is created in the first slot that is not in use. That slot is not
connected (`HidDevice.Ok.created`), so whatever index is left there held no
seat, and the new record holds none either. -/
theorem SeatsOk.create (h : SeatsOk s) (info : HidInfo) : SeatsOk (s.create info) := by
  unfold Bridge.create
  split
  · next d hd =>
    -- a slot that is not in use holds no seat
    have hunused : (s.devices d).info = none := by simpa using List.find?_some hd
    refine h.setDevice ⟨fun _ => rfl, (fun h => by cases h), (fun h => by cases h)⟩ ?_
    have hgone := (h.devices d).created hunused
    simp [held, hgone]
  · exact h

/-- A channel opens on a device that holds no seat. The callback sets the index
to "no seat", which loses nothing then. The device cannot be ready before: it
would have to hold a seat. -/
theorem SeatsOk.connect (h : SeatsOk s) (hinfo : (s.devices d).info ≠ none)
    (hheld : s.held d = none) : SeatsOk (s.connect d) := by
  have hsame : s.connect d = s.setDevice d
      { s.devices d with connected := true, controllerIdx := none } := by
    simp [Bridge.connect, arduinoOnDeviceConnected, Bridge.setDevice]
  rw [hsame]
  refine h.setDevice ⟨fun hnone => absurd hnone hinfo, fun _ => rfl, fun hready => ?_⟩ hheld.symm
  -- a device that is ready has a seat
  obtain ⟨hconnected, hseat⟩ := (h.devices d).ready hready
  rw [held, hconnected, if_pos rfl] at hheld
  rw [hheld] at hseat
  cases hseat

/-- A setup that begins changes the state of the device only. -/
theorem SeatsOk.setReady (h : SeatsOk s) (d : DeviceIdx) : SeatsOk (s.setReady d) := by
  unfold Bridge.setReady
  split
  · exact h
  · exact h.setDevice ⟨(h.devices d).created, (h.devices d).opened, fun h => by cases h⟩ rfl

/-- **A seat is free** while some device has none: there are as many seats as
devices, and no two devices share one. So the search finds a seat, and the
counter, which counts the taken ones, is not at its limit. -/
theorem SeatsOk.exists_free (h : SeatsOk s) (hheld : s.held d = none) :
    ∃ i, s.freeSeat = some i ∧ s.taken i = false ∧ s.usedControllers ≠ 4 := by
  obtain ⟨j, hj⟩ := h.leases.exists_free (Nat.le_refl 4) hheld
  -- a free seat means that the counter is below its end
  have hcount := (Leases.countOn_lt_card_iff (fun _ => True)).mpr ⟨j, trivial, hj⟩
  cases hfree : s.freeSeat with
  -- and that the search finds one
  | none =>
    have hall := List.find?_eq_none.mp hfree j (List.mem_finRange j)
    change ¬ (!s.taken j) = true at hall
    rw [hj] at hall
    exact absurd rfl hall
  | some i =>
    have hi : (!s.taken i) = true :=
      List.find?_some (p := fun i => !(s.controllers i).taken) hfree
    refine ⟨i, rfl, by simpa using hi, ?_⟩
    rw [h.counted]
    simp only [Finset.filter_true, Finset.card_univ, Fintype.card_fin] at hcount
    omega

/-- A device that has no seat is accepted, and takes the free seat that the
search has found. The state is written out as the source leaves it. -/
theorem SeatsOk.accepts (h : SeatsOk s) (hidx : (s.devices d).controllerIdx = none) :
    ∃ i, s.taken i = false ∧ s.arduinoOnDeviceReady d =
      ({ (s.setSeat i { s.controllers i with
            taken := true, properties := s.propertiesOn d }).setDevice d
          { s.devices d with controllerIdx := some i } with
          usedControllers := s.usedControllers + 1 }, true) := by
  have hheld : s.held d = none := by rw [held, hidx, ite_self]
  obtain ⟨i, hseat, hfree, hused⟩ := h.exists_free hheld
  refine ⟨i, hfree, ?_⟩
  unfold arduinoOnDeviceReady
  rw [if_neg hused, if_neg (not_not_intro hidx), hseat]
  rfl

/-- The device that becomes ready is accepted, and holds a seat that was free.
The other seats stay as they are. -/
def GivesSeat (s : Bridge) (d : DeviceIdx) : Prop :=
  ∃ i t, s.arduinoOnDeviceReady d = (t, true) ∧ s.taken i = false ∧ t.taken i = true ∧
    (t.devices d).controllerIdx = some i ∧ ∀ j, j ≠ i → t.controllers j = s.controllers j

/-- With the records in agreement every device without an index is given a
seat. -/
theorem SeatsOk.givesSeat (h : SeatsOk s) (hidx : (s.devices d).controllerIdx = none) :
    s.GivesSeat d := by
  obtain ⟨i, hfree, haccept⟩ := h.accepts hidx
  refine ⟨i, _, haccept, hfree, ?_, ?_, fun j hj => ?_⟩
  -- the seat is marked in the table of seats, and named in the record of the device
  case refine_1 =>
    change ((s.setSeat i _).controllers i).taken = true
    rw [controllers_setSeat, if_pos rfl]
  case refine_2 =>
    change (Function.update s.devices d _ d).controllerIdx = some i
    rw [Function.update_self]
  case refine_3 =>
    change (s.setSeat i _).controllers j = s.controllers j
    rw [controllers_setSeat, if_neg hj]

/-- A device that has an index is not accepted a second time, and nothing
changes: the callback answers `false` before it looks for a seat. What follows
is that the device is deleted. -/
theorem rejects (hidx : (s.devices d).controllerIdx ≠ none) :
    s.arduinoOnDeviceReady d = (s, false) := by
  unfold arduinoOnDeviceReady
  rw [if_pos hidx, ite_self]

/-- The end of a setup. A device without a seat is accepted and becomes ready
(`SeatsOk.accepts`); one with an index is turned away and deleted, which gives
the seat it held back. -/
theorem SeatsOk.setReadyComplete (h : SeatsOk s) (d : DeviceIdx) :
    SeatsOk (s.setReadyComplete d) := by
  unfold Bridge.setReadyComplete
  split
  · exact h
  · by_cases hidx : (s.devices d).controllerIdx = none
    · obtain ⟨i, hfree, haccept⟩ := h.accepts hidx
      have hconnected := (h.devices d).opened hidx
      -- a device without a seat, which is connected and takes a free one
      have hheld : s.held d = none := by rw [held, hidx, ite_self]
      have hdev : HidDevice.Ok { s.devices d with controllerIdx := some i, state := .ready } :=
        ⟨fun hnone => (by rw [(h.devices d).created hnone] at hconnected; cases hconnected),
          fun hnone => (by cases hnone), fun _ => ⟨hconnected, rfl⟩⟩
      rw [haccept]
      let seat : Seat :=
        { s.controllers i with taken := true, properties := s.propertiesOn d }
      have hseat : seat.taken = true := rfl
      have hassigned := h.assign hheld hfree hdev hconnected rfl hseat
      simpa [Bridge.setDevice, setSeat, seat] using hassigned
    · -- a device that has a seat is sent away, and gives it back
      rw [rejects hidx]
      exact h.lost d

/-- A report writes the data of a seat, and neither its mark nor the device. -/
theorem SeatsOk.report (h : SeatsOk s) (d : DeviceIdx) (ctl : ControllerData) :
    SeatsOk (s.processController d ctl) := by
  unfold processController
  split
  · unfold arduinoOnControllerData
    split
    · exact h
    · exact h.setSeat rfl
  · exact h

/-- What a Bluetooth event needs to keep the seats: no channel opens on a device
with a seat. It is the only condition there is, and `seat_forgotten` says that
it is needed. -/
def KeepsSeat (s : Bridge) : BtEvent → Prop
  | .connect d => s.held d = none
  | .create _ | .setReady _ | .setReadyComplete _ | .report _ _ | .lost _ => True

/-- A channel opens only on a device that has been created. The stack looks the
device up before it calls, so this is no condition on what a gamepad does. -/
def OpensCreated (s : Bridge) : BtEvent → Prop
  | .connect d => (s.devices d).info ≠ none
  | .create _ | .setReady _ | .setReadyComplete _ | .report _ _ | .lost _ => True

/-- **One event keeps the invariant**, when it opens no channel on a device with
a seat. -/
theorem SeatsOk.step (h : SeatsOk s) {e : BtEvent} (hcreated : s.OpensCreated e)
    (hkeeps : s.KeepsSeat e) : SeatsOk (s.step e) := by
  cases e with
  | create info => exact h.create info
  | connect d => exact h.connect hcreated hkeeps
  | setReady d => exact h.setReady d
  | setReadyComplete d => exact h.setReadyComplete d
  | report d ctl => exact h.report d ctl
  | lost d => exact h.lost d

/-- A channel that opens on a device with a seat leaves the seat without a
holder: the device forgets its index, the seat stays marked, and nothing else
names it. -/
theorem seat_forgotten (h : SeatsOk s) (hheld : s.held d = some i) :
    ¬ SeatsAgree (s.connect d) := by
  intro hagree
  have hnone : (s.connect d).held = Function.update s.held d none := by
    simp [Bridge.connect, arduinoOnDeviceConnected]
  have htaken : (s.connect d).taken i = true := h.leases.taken_of_held hheld
  obtain ⟨e, he⟩ := (hagree.leases.taken_iff i).mp htaken
  rw [hnone] at he
  by_cases hed : e = d
  · rw [hed, Function.update_self] at he
    cases he
  · rw [Function.update_of_ne hed] at he
    exact hed (h.leases.distinct he hheld)

end Bridge

namespace Runtime

variable {b : Board} {s : Runtime}

/-- `loop()` takes data out of the seats, and leaves them as they are otherwise.
A request can restart the device, which starts over with no seat taken. -/
theorem seatsOk_cpu (h : s.bridge.SeatsOk) (incoming : Option Incoming) :
    (s.cpu b incoming).bridge.SeatsOk := by
  unfold cpu
  split
  · -- a poll reads the seats
    split <;> exact h
  · split <;> exact h
  · -- a fetch clears the mark of a seat
    unfold Bluepad32.fetch
    dsimp only
    split
    · exact h.setSeat rfl
    · exact h
  · unfold notifySeat
    dsimp only
    split
    · exact h
    · split <;> exact h
  · exact h
  · exact h
  · unfold serveRequest
    split
    · exact h
    · dsimp only
      split
      · -- a restart starts over with empty seats
        exact Bridge.seatsOk_empty
      · exact h
  · exact h

/-- A condition on the steps of the Bluetooth side. Time that passes and the
steps of `loop()` are free. -/
def OnBt (C : Bridge → BtEvent → Prop) (s : Runtime) : RuntimeEvent → Prop
  | .bt e => C s.bridge e
  | .elapse _ | .cpu _ => True

/-- **The seats.** In every interleaving in which channels open on created
devices only, the seats, the devices and the counter agree in every state if and
only if no channel opens on a device that holds a seat. -/
theorem seats_iff (b : Board) (nvs : NvsStore) (plan : Prog.Plan nvsInterface) (millis : UInt32)
    {es : List RuntimeEvent}
    (hes : StepsMeet (step b) (OnBt Bridge.OpensCreated) (boot b nvs plan millis) es) :
    StatesMeet (step b) (fun s => s.bridge.SeatsAgree) (boot b nvs plan millis) es ↔
      StepsMeet (step b) (OnBt Bridge.KeepsSeat) (boot b nvs plan millis) es := by
  refine statesMeet_iff_stepsMeet (I := fun s => s.bridge.SeatsOk) (fun s h => h.toSeatsAgree)
    (fun s e h hA hC => ?_) (fun s e h _ hP => ?_) Bridge.seatsOk_empty hes
  · cases e with
    | bt e => exact h.step hA hC
    | elapse ms => exact h
    | cpu incoming => exact seatsOk_cpu h incoming
  · cases e with
    | bt e =>
      cases e with
      | connect d =>
        change s.bridge.held d = none
        cases hheld : s.bridge.held d with
        | none => rfl
        -- a connect over a device that holds a seat forgets the seat
        | some i => exact absurd hP (Bridge.seat_forgotten h hheld)
      | create info => trivial
      | setReady d => trivial
      | setReadyComplete d => trivial
      | report d ctl => trivial
      | lost d => trivial
    | elapse ms => trivial
    | cpu incoming => trivial

theorem seats_iff_arrives :
    StatesMeet (step smallBoard) (fun s => s.bridge.SeatsAgree)
        (boot smallBoard {} (fun _ _ => false) 0) (arrives 0 1) ↔
      StepsMeet (step smallBoard) (OnBt Bridge.KeepsSeat)
        (boot smallBoard {} (fun _ _ => false) 0) (arrives 0 1) :=
  seats_iff smallBoard {} (fun _ _ => false) 0
    ⟨trivial, Option.some_ne_none _, trivial, trivial, trivial⟩

/-- **No device is turned away for want of a seat**, in any such interleaving:
in every state, a device without a seat that becomes ready is given one that was
free. -/
theorem ready_accepted (b : Board) (nvs : NvsStore) (plan : Prog.Plan nvsInterface)
    (millis : UInt32) {es : List RuntimeEvent}
    (hcreated : StepsMeet (step b) (OnBt Bridge.OpensCreated) (boot b nvs plan millis) es)
    (hkeeps : StepsMeet (step b) (OnBt Bridge.KeepsSeat) (boot b nvs plan millis) es) :
    StatesMeet (step b)
      (fun s => ∀ d, (s.bridge.devices d).controllerIdx = none → s.bridge.GivesSeat d)
      (boot b nvs plan millis) es := by
  refine statesMeet_of_stepsMeet (I := fun s => s.bridge.SeatsOk) (fun s h d hidx => ?_)
    (fun s e h hC => ?_) Bridge.seatsOk_empty (stepsMeet_and hcreated hkeeps)
  · exact h.givesSeat hidx
  · cases e with
    | bt e => exact h.step hC.1 hC.2
    | elapse ms => exact h
    | cpu incoming => exact seatsOk_cpu h incoming

theorem ready_accepted_arrives :
    StatesMeet (step smallBoard)
      (fun s => ∀ d, (s.bridge.devices d).controllerIdx = none → s.bridge.GivesSeat d)
      (boot smallBoard {} (fun _ _ => false) 0) (arrives 0 1) :=
  ready_accepted smallBoard {} (fun _ _ => false) 0
    ⟨trivial, Option.some_ne_none _, trivial, trivial, trivial⟩
    ⟨trivial, rfl, trivial, trivial, trivial⟩

end Runtime

end RcController
