import Pentagon5.Auth.Channel

/-!
# Settings of the WebSocket route

The part of `load_auth_settings` that sets what the route reads.
-/

namespace Pentagon5.Auth

open Python

/-- `_positive_int`; an error is the text of the `ConfigurationError`. -/
def positiveInt (I : Interpreter) (values : String → Option Str) (name : String)
    (default maximum : ℕ) : Except String ℕ :=
  match I.int ((values name).getD ↑(toString default)) with
  | none => .error s!"{name} must be an integer"
  | some value =>
    if 1 ≤ value ∧ value ≤ maximum then .ok value.toNat
    else .error s!"{name} must be between 1 and {maximum}"

def loadServiceName (values : String → Option Str) : Except String Str :=
  let serviceName := ((values "P5_SERVICE_NAME").getD "").strip
  if serviceName = ⟨[]⟩ then .error "P5_SERVICE_NAME is required" else .ok serviceName

def loadMaxFrameBytes (I : Interpreter) (values : String → Option Str) : Except String ℕ := do
  let wsMaxFrameBytes ← positiveInt I values "P5_WS_MAX_FRAME_BYTES" 16384 65536
  if wsMaxFrameBytes < 1024 then .error "P5_WS_MAX_FRAME_BYTES must be at least 1024"
  else .ok wsMaxFrameBytes

def loadChannelSettings (I : Interpreter) (values : String → Option Str) :
    Except String ChannelSettings := do
  let serviceName ← loadServiceName values
  let wsMaxFrameBytes ← loadMaxFrameBytes I values
  let wsMaxSubscriptions ← positiveInt I values "P5_WS_MAX_SUBSCRIPTIONS" 1 4
  .ok ⟨wsMaxFrameBytes, wsMaxSubscriptions, serviceName⟩

/-- What holds of accepted settings. -/
lemma loadChannelSettings_bounds {I : Interpreter} {values : String → Option Str}
    {settings : ChannelSettings} (h : loadChannelSettings I values = .ok settings) :
    1024 ≤ settings.wsMaxFrameBytes ∧ settings.serviceName ≠ ⟨[]⟩ := by
  obtain ⟨serviceName, hname, h⟩ := bind_eq_ok.mp h
  obtain ⟨wsMaxFrameBytes, hframe, h⟩ := bind_eq_ok.mp h
  obtain ⟨wsMaxSubscriptions, -, h⟩ := bind_eq_ok.mp h
  obtain rfl := Except.ok.inj h
  constructor
  · obtain ⟨bytes, -, hframe⟩ := bind_eq_ok.mp hframe
    split_ifs at hframe with hsmall
    obtain rfl := Except.ok.inj hframe
    exact Nat.not_lt.mp hsmall
  · simp only [loadServiceName] at hname
    split_ifs at hname with hempty
    obtain rfl := Except.ok.inj hname
    exact hempty

end Pentagon5.Auth
