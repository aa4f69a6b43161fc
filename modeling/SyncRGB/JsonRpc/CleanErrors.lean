import SyncRGB.Effect.Atomic
import SyncRGB.JsonRpc.ControlMethods

/-! The methods that check first and write last: their errors leave every controller as it was. -/
namespace SyncRGB
open ByteCodec Effect RGBController
namespace JsonRpc

/-- The method is answered with an error, returned or made of an exception. -/
def IsError (e : Stop) : Prop := e ≠ .outside

/-! ### Steps -/

section
variable {σ α : Type}

theorem reads_handled (x : Handled α) : ReadsOnly (handled x : Control σ α) := ReadsOnly.lift _

theorem reads_changing {m : Change σ α} (reads : ReadsOnly m) : ReadsOnly (changing m) := reads

theorem reads_device (params : Json) : ReadsOnly (device params) := by
  apply ReadsOnly.bind (ReadsOnly.lift _)
  intro deviceIdx
  apply ReadsOnly.bind ReadsOnly.get
  intro cs
  split
  · exact ReadsOnly.pure _
  · exact ReadsOnly.throw _

theorem reads_deviceAt (deviceIdx : UInt32) : ReadsOnly (deviceAt deviceIdx) := by
  apply ReadsOnly.bind ReadsOnly.get
  intro cs
  split
  · exact ReadsOnly.pure _
  · exact ReadsOnly.throw _

theorem deviceAt_found {deviceIdx : UInt32} {cs : List RGBController} {i : Nat} {c : RGBController}
    (ok : (deviceAt deviceIdx cs).1 = .ok (i, c)) : cs[i]? = some c := by
  have read : (get : Change (List RGBController) (List RGBController)) cs = (.ok cs, cs) := rfl
  rw [deviceAt, bind_ok read] at ok
  cases found : cs[deviceIdx.toNat]? with
  | some d =>
      rw [found] at ok
      cases ok
      exact found
  | none =>
      rw [found] at ok
      cases ok

theorem device_found {params : Json} {cs : List RGBController} {i : Nat} {c : RGBController}
    (ok : (device params cs).1 = .ok (i, c)) : cs[i]? = some c := by
  cases index : params.get "deviceIndex" >>= Json.toWord with
  | error e =>
      have run : (liftM (params.get "deviceIndex" >>= Json.toWord : Handled UInt32) :
          Change (List RGBController) UInt32) cs = (.error e, cs) := by rw [index]; rfl
      rw [device, bind_error run] at ok
      cases ok
  | ok deviceIdx =>
      have run : (liftM (params.get "deviceIndex" >>= Json.toWord : Handled UInt32) :
          Change (List RGBController) UInt32) cs = (.ok deviceIdx, cs) := by rw [index]; rfl
      rw [device, bind_ok run] at ok
      exact deviceAt_found ok

theorem storing_succeeds (f : σ → Option σ) : Succeeds IsError (storing f) := by
  intro s e t run counted
  unfold storing at run
  split at run
  · cases run
  · cases run
    exact counted rfl

theorem changing_failsClean {m : Change σ α} {s : σ} :
    FailsClean IsError (changing m) s ↔ FailsClean (fun _ => True) m s := by
  have same : changing m s = ((m s).1.mapError Stop.failure, (m s).2) := rfl
  constructor
  · intro clean e t run _
    rw [FailsClean, same, run] at clean
    exact clean _ t rfl (by simp [IsError])
  · intro clean e t run _
    rw [same] at run
    rcases run_cases m s with ⟨a, u, once⟩ | ⟨e', u, once⟩
    · rw [once] at run
      cases run
    · rw [once] at run
      cases run
      exact clean e' u once trivial

theorem onDevice_failsClean {work : Control RGBController Unit} {i : Nat} {cs : List RGBController} :
    FailsClean IsError (onDevice i work) cs ↔ ∀ c, cs[i]? = some c → FailsClean IsError work c := by
  constructor
  · intro clean c found e d worked counted
    have run : onDevice i work cs = (.error e, cs.set i d) := by simp only [onDevice, found, worked]
    have same := congrArg (·[i]?) (clean e _ run counted)
    have inside := List.getElem?_eq_some_iff.mp found |>.1
    simpa [List.getElem?_set_self inside, found] using same
  · intro clean e ds run counted
    unfold onDevice at run
    split at run
    · rename_i c found
      rcases run_cases work c with ⟨_, d, worked⟩ | ⟨e', d, worked⟩
      · rw [worked] at run
        cases run
      · rw [worked] at run
        cases run
        rw [clean c found e d worked counted]
        obtain ⟨inside, rfl⟩ := List.getElem?_eq_some_iff.mp found
        exact List.set_getElem_self inside
    · cases run

/-- Behind a check, it is the rest that counts. -/
theorem clean_behind {β : Type} {m : Control σ β} {f : β → Control σ α} {s : σ} (reads : ReadsOnly m)
    (rest : ∀ b, FailsClean IsError (f b) s) : FailsClean IsError (m >>= f) s :=
  (FailsClean.bind_of_reads reads).mpr fun b _ => rest b

/-- A method that ends with its work on the device. -/
theorem work_failsClean {work : Control RGBController Unit} {i : Nat} {cs : List RGBController}
    {reply : Json} : FailsClean IsError (do onDevice i work; return reply) cs ↔
      ∀ c, cs[i]? = some c → FailsClean IsError work c :=
  (FailsClean.bind_of_succeeds fun _ => Succeeds.pure _).trans onDevice_failsClean

theorem mapError_ok {x : Handled α} {a : α} : x.mapError Stop.failure = .ok a ↔ x = .ok a := by
  cases x with
  | error e =>
      apply iff_of_false
      · intro ok
        cases ok
      · intro ok
        cases ok
  | ok b =>
      constructor
      · intro ok
        cases ok
        rfl
      · intro ok
        cases ok
        rfl

/-- Behind a check that only some parameters pass. -/
theorem behind_handled {β : Type} {x : Handled β} {f : β → Control σ α} {s : σ} :
    FailsClean IsError (handled x >>= f) s ↔ ∀ b, x = .ok b → FailsClean IsError (f b) s := by
  apply FailsClean.bind_lift.trans
  simp only [mapError_ok]

/-- Behind a step that only finds something. -/
theorem behind_changing {β : Type} {m : Change σ β} {f : β → Control σ α} {s : σ} (reads : ReadsOnly m) :
    FailsClean IsError (changing m >>= f) s ↔ ∀ b, (m s).1 = .ok b → FailsClean IsError (f b) s := by
  rw [FailsClean.bind_of_reads (reads_changing reads)]
  have same : (changing m s).1 = (m s).1.mapError Stop.failure := rfl
  simp only [same, mapError_ok]

end

/-! ### Methods -/

section
variable (p : Platform) (params : Json) (cs : List RGBController)

theorem setLEDColor_clean : FailsClean IsError (setLEDColor (p.uninitialized 0) params) cs := by
  apply clean_behind (reads_handled _)
  rintro ⟨ledIdx, color⟩
  apply clean_behind (reads_changing (reads_device params))
  rintro ⟨i, c⟩
  apply clean_behind (reads_handled _)
  intro _
  apply work_failsClean.mpr
  intro c _
  exact FailsClean.of_succeeds (Succeeds.modify _)

theorem setZoneColor_clean : FailsClean IsError (setZoneColor (p.uninitialized 0) params) cs := by
  apply clean_behind (reads_handled _)
  rintro ⟨zoneIdx, color⟩
  apply clean_behind (reads_changing (reads_device params))
  rintro ⟨i, c⟩
  apply work_failsClean.mpr
  intro c _
  apply clean_behind ReadsOnly.get
  intro c
  apply clean_behind (reads_handled _)
  intro _
  exact FailsClean.of_succeeds (storing_succeeds _)

theorem setAllColors_clean : FailsClean IsError (setAllColors (p.uninitialized 0) params) cs := by
  apply clean_behind (reads_handled _)
  intro color
  apply clean_behind (reads_changing (reads_device params))
  rintro ⟨i, c⟩
  apply work_failsClean.mpr
  intro c _
  exact FailsClean.of_succeeds (storing_succeeds _)

theorem setKeyColor_clean : FailsClean IsError (setKeyColor (p.uninitialized 0) params) cs := by
  apply clean_behind (reads_handled _)
  rintro ⟨keyName, color⟩
  apply clean_behind (reads_changing (reads_device params))
  rintro ⟨i, c⟩
  apply clean_behind (reads_handled _)
  intro ledIdx
  apply work_failsClean.mpr
  intro c _
  exact FailsClean.of_succeeds (Succeeds.modify _)

theorem setMode_clean : FailsClean IsError (modeMethod (setMode params)) cs := by
  apply (FailsClean.bind_of_succeeds fun _ => Succeeds.pure _).mpr
  apply changing_failsClean.mpr
  apply (FailsClean.bind_of_reads (ReadsOnly.lift _)).mpr
  intro _ _
  apply (FailsClean.bind_of_reads (ReadsOnly.lift _)).mpr
  intro modeIdx _
  apply (FailsClean.bind_of_reads (reads_device params)).mpr
  rintro ⟨i, c⟩ _
  apply (FailsClean.bind_of_reads (ReadsOnly.lift _)).mpr
  intro _ _
  exact FailsClean.of_succeeds (Succeeds.modify _)

theorem setCustomMode_clean : FailsClean IsError (modeMethod (setCustomMode params)) cs := by
  apply (FailsClean.bind_of_succeeds fun _ => Succeeds.pure _).mpr
  apply changing_failsClean.mpr
  apply (FailsClean.bind_of_reads (ReadsOnly.lift _)).mpr
  intro _ _
  apply (FailsClean.bind_of_reads (reads_device params)).mpr
  rintro ⟨i, c⟩ _
  exact FailsClean.of_succeeds (Succeeds.modify _)

theorem getZones_clean : FailsClean IsError (getZones params) cs := by
  apply FailsClean.of_reads
  apply ReadsOnly.bind (reads_handled _)
  intro _
  apply ReadsOnly.bind (reads_changing (reads_device params))
  rintro ⟨i, c⟩
  exact ReadsOnly.pure _

theorem resizeZone_clean : FailsClean IsError (resizeZone p.driver params) cs := by
  apply clean_behind (reads_handled _)
  rintro ⟨zoneIdx, newSize⟩
  apply clean_behind (reads_changing (reads_device params))
  rintro ⟨i, c⟩
  apply clean_behind (reads_handled _)
  intro _
  apply work_failsClean.mpr
  intro c _
  exact FailsClean.of_succeeds (Succeeds.modify _)

theorem clearSegments_clean : FailsClean IsError (clearSegments params) cs := by
  apply clean_behind (reads_handled _)
  intro zoneIdx
  apply clean_behind (reads_changing (reads_device params))
  rintro ⟨i, c⟩
  apply clean_behind (reads_handled _)
  intro _
  apply work_failsClean.mpr
  intro c _
  exact FailsClean.of_succeeds (storing_succeeds _)

theorem addSegment_clean : FailsClean IsError (addSegment p.uninitializedType params) cs := by
  apply clean_behind (reads_handled _)
  rintro ⟨zoneIdx, newSeg⟩
  apply clean_behind (reads_changing (reads_device params))
  rintro ⟨i, c⟩
  apply clean_behind (reads_handled _)
  intro _
  apply work_failsClean.mpr
  intro c _
  exact FailsClean.of_succeeds (storing_succeeds _)

end

end JsonRpc
end SyncRGB
