import Rita.Basic

/-!
# `Rita/Client/Auth.lean` — setting the router password

`set_pass` (`rita_client/src/dashboard/auth.rs`) takes the new password from the dashboard,
hashes it with SHA3-512 after appending "RitaSalt", and on OpenWrt also makes it the system
password. The settings follow the pattern the wallet's nonce update shows: `get_rita_client()`
returns a copy, and only `set_rita_client` stores one back; `write_config()` writes the stored
settings to the config file. The hash and the kernel calls are oracles.

`set_pass` puts the hash into its copy of the settings and never stores the copy, so the
dashboard password, in memory and in the config file, stays what it was; on OpenWrt a call that
succeeds has changed only the system password (`setPass_keeps_dashboard_password`).
-/

set_option autoImplicit false

namespace Rita
namespace Client

/-- The network settings `set_pass` touches. -/
structure NetworkSettings where
  ritaDashboardPassword : Option String
  deriving DecidableEq

/-- The client settings `set_pass` touches. -/
structure RitaClientSettings where
  network : NetworkSettings
  deriving DecidableEq

/-- `RitaClientError`, as `set_pass` returns it: the settings' error, or the kernel interface's
    through `?`. -/
inductive RitaClientError
  | settingsError (e : String)
  | kernelInterfaceError (e : String)
  deriving DecidableEq

/-- The router as `set_pass` sees it: the settings `get_rita_client` copies and
    `set_rita_client` stores, the config file `write_config` writes them to, and the system
    password. -/
structure Router where
  settings : RitaClientSettings
  configFile : RitaClientSettings
  systemPassword : String

/-- What `set_pass` calls outside the router's state: the hash, as the hex text
    `bytes_to_hex_str` makes of SHA3-512 of a string, and the errors of `write_config`,
    `set_system_password` and `fs_sync`. -/
structure AuthIo where
  sha3Hex : String → String
  writeConfig : Except String Unit
  isOpenwrt : Bool
  setSystemPassword : Except String Unit
  fsSync : Except String Unit

/-- `KI.set_system_password(password)?; KI.fs_sync()?`, on OpenWrt. -/
def setSystemPassword (io : AuthIo) (password : String) (r : Router) :
    Except RitaClientError Unit × Router :=
  match io.setSystemPassword with
  | .error e => (.error (.kernelInterfaceError e), r)
  | .ok () =>
    let r := { r with systemPassword := password }
    match io.fsSync with
    | .error e => (.error (.kernelInterfaceError e), r)
    | .ok () => (.ok (), r)

/-- `set_pass(router_pass)`: the result (`Ok` carries the empty JSON body) and the router after. -/
def setPass (io : AuthIo) (password : String) (r : Router) : Except RitaClientError Unit × Router :=
  let inputString := password ++ "RitaSalt"
  let hashedPass := io.sha3Hex inputString
  -- `rita_client` is a copy of the settings, and no `set_rita_client` stores it
  let _ritaClient : RitaClientSettings :=
    { r.settings with network := { r.settings.network with ritaDashboardPassword := some hashedPass } }
  match io.writeConfig with
  | .error e => (.error (.settingsError e), r)
  | .ok () =>
    let r := { r with configFile := r.settings }
    if io.isOpenwrt then setSystemPassword io password r else (.ok (), r)

theorem setSystemPassword_settings (io : AuthIo) (password : String) (r : Router) :
    (setSystemPassword io password r).2.settings = r.settings ∧
      (setSystemPassword io password r).2.configFile = r.configFile ∧
      ((setSystemPassword io password r).1 = .ok () →
        (setSystemPassword io password r).2.systemPassword = password) := by
  unfold setSystemPassword
  cases io.setSystemPassword <;> [skip; cases io.fsSync] <;> simp

/-- **`set_pass` never changes the dashboard password.** The settings in memory stay as they were,
    and when the call succeeds the config file holds them too; on OpenWrt, a call that succeeds
    has set the system password to the new one. -/
theorem setPass_keeps_dashboard_password {io : AuthIo} {password : String} {r r' : Router}
    {res : Except RitaClientError Unit} (h : setPass io password r = (res, r')) :
    r'.settings = r.settings ∧
      (res = .ok () → r'.configFile = r.settings ∧ (io.isOpenwrt = true → r'.systemPassword = password)) := by
  unfold setPass at h
  rcases hw : io.writeConfig with e | ⟨⟩ <;> rw [hw] at h <;> dsimp only at h
  · cases h
    exact ⟨rfl, nofun⟩
  · by_cases ho : io.isOpenwrt = true
    · rw [if_pos ho] at h
      obtain ⟨hs, hc, hp⟩ := setSystemPassword_settings io password { r with configFile := r.settings }
      rw [h] at hs hc hp
      exact ⟨hs, fun hres => ⟨hc, fun _ => hp hres⟩⟩
    · rw [if_neg ho] at h
      cases h
      exact ⟨rfl, fun _ => ⟨rfl, fun h' => absurd h' ho⟩⟩

end Client
end Rita
