import GssProxy.Compat.Reload

/-!
# Services of one file

Both daemons refuse two services that the same connections would match, but the C daemon compares with the
compiled-in path for a socket that is not set.

* `not_shadowed`: when a service accepted behind another one is ever reached.
* `service_selected`: which service a connection gets.
-/

namespace GssProxy.Compat

open Server

def GP_SOCKET_NAME : String := "/var/lib/gssproxy/default.sock"

/-! ## Accepting a configuration -/

inductive ServiceError where
  | programNotAbsolute
  | programBar
  | anyUid (jname iname : String)
  | sameEuid (iname jname : String)
  deriving DecidableEq, Repr

def ServiceError.text : ServiceError → String
  | .programNotAbsolute => "Program paths must be absolute!"
  | .programBar => "The character '|' is invalid in program paths!"
  | .anyUid jname iname =>
    jname ++ " sets allow_any_uid with the same socket, selinux_context, and program as " ++ iname ++
      "!"
  | .sameEuid iname jname =>
    "socket, selinux_context, euid, and program for " ++ iname ++ " and " ++ jname ++
      " should not match!"

def programError : Option String → Option ServiceError
  | none => none
  | some program =>
    if program.toList.head? ≠ some '/' then some .programNotAbsolute
    else if '|' ∈ program.toList then some .programBar
    else none

section

variable {S : Type} (service : S → Service) (sock : Service → String) (sameCtx : S → S → Bool)

def pairError (isvc jsvc : S) : Option ServiceError :=
  if sock (service isvc) ≠ sock (service jsvc) ∨ (service isvc).program ≠ (service jsvc).program ∨
      ¬ sameCtx isvc jsvc then none
  else if (service jsvc).anyUid then some (.anyUid (service jsvc).name (service isvc).name)
  else if (service jsvc).euid = (service isvc).euid then
    some (.sameEuid (service isvc).name (service jsvc).name)
  else none

def serviceErrors (before : List S) : List S → List ServiceError
  | [] => []
  | isvc :: rest =>
    (programError (service isvc).program).toList ++
      before.filterMap (pairError service sock sameCtx isvc) ++ serviceErrors (before ++ [isvc]) rest

end

/-- How `check_services` compares labels. -/
def gpSelinuxCtxSame : Option SelinuxContext → Option SelinuxContext → Bool
  | none, none => true
  | some ctx₁, some ctx₂ => gpSelinuxCtxEqual ctx₁ ctx₂
  | _, _ => false

section

variable {H : Type}

/-- `check_services` of `gp_config.c`. -/
def gpCheckServices (config : GpConfig H) : Nat :=
  if serviceErrors (fun svc : GpService H => svc.toService) (fun svc => svc.socket.getD GP_SOCKET_NAME)
      (fun isvc jsvc => gpSelinuxCtxSame isvc.selinuxCtx jsvc.selinuxCtx) [] config.svcs = [] then 0
  else 1

end

structure LabelledService extends Service where
  selinuxContext : Option String
  deriving DecidableEq

def checkServices (socketName : String) (services : List LabelledService) : Except String Unit :=
  match serviceErrors LabelledService.toService (fun svc => svc.socket.getD socketName)
      (fun isvc jsvc => isvc.selinuxContext == jsvc.selinuxContext) [] services with
  | [] => .ok ()
  | error :: _ => .error error.text

/-! ## Reaching a service -/

section

variable {S : Type} {service : S → Service} {sock : Service → String} {sameCtx : S → S → Bool}

theorem pairwise_of_serviceErrors (services : List S) :
    ∀ {before : List S}, serviceErrors service sock sameCtx before services = [] →
      (∀ jsvc ∈ before, ∀ isvc ∈ services, pairError service sock sameCtx isvc jsvc = none) ∧
      services.Pairwise fun jsvc isvc => pairError service sock sameCtx isvc jsvc = none := by
  induction services with
  | nil => exact fun _ => ⟨nofun, .nil⟩
  | cons isvc rest ih =>
    intro before he
    simp only [serviceErrors, List.append_eq_nil_iff, List.filterMap_eq_nil_iff] at he
    obtain ⟨⟨-, hpa⟩, hr⟩ := he
    obtain ⟨hb, hp⟩ := ih hr
    refine ⟨?_, .cons ?_ hp⟩
    · intro jsvc hj isvc' hi
      rcases List.mem_cons.mp hi with rfl | hi
      · exact hpa jsvc hj
      · exact hb jsvc (List.mem_append_left _ hj) isvc' hi
    · intro isvc' hi
      exact hb isvc (List.mem_append_right _ (List.mem_singleton_self _)) isvc' hi

end

section

variable {H : Type} {config : GpConfig H} {conn : GpConn} {svc isvc jsvc : GpService H}

def GpConfig.socketOf (config : GpConfig H) (svc : GpService H) : String :=
  svc.socket.getD config.socketName

theorem skips_eq_false_iff : config.skips conn svc = false ↔
    (svc.anyUid = true ∨ svc.euid = conn.uid) ∧ gpConnCheckSelinux conn svc.selinuxCtx = true ∧
      (svc.program = none ∨ conn.program = svc.program) ∧ conn.socket = config.socketOf svc := by
  unfold GpConfig.skips GpConfig.socketOf
  cases svc.program <;> cases svc.socket <;> simp [and_assoc, Bool.or_eq_false_iff, or_iff_not_imp_left]

theorem gpConnCheckSelinux_self (ctx : Option SelinuxContext) (uid : UInt32) (program : Option String)
    (socket : String) (owner : Option String) :
    gpConnCheckSelinux ⟨uid, program, socket, owner, ctx⟩ ctx = true := by
  cases ctx with
  | none => rfl
  | some ctx =>
    cases hr : ctx.range <;> simp [gpConnCheckSelinux, gpSelinuxCtxEqual, hr]

theorem exists_uid (ha : jsvc.anyUid = false) (ho : isvc.anyUid = true ∨ jsvc.euid ≠ isvc.euid) :
    ∃ uid, (isvc.anyUid = true ∨ isvc.euid = uid) ∧ ¬ (jsvc.anyUid = true ∨ jsvc.euid = uid) := by
  by_cases he : jsvc.euid = isvc.euid
  · rcases ho with hi | hne
    · refine ⟨jsvc.euid + 1, .inl hi, ?_⟩
      rw [ha]; simp
    · exact absurd he hne
  · refine ⟨isvc.euid, .inr rfl, ?_⟩
    rw [ha]
    simp [he]

theorem exists_conn
    (h : config.socketOf isvc ≠ config.socketOf jsvc ∨
      jsvc.anyUid = false ∧ (isvc.anyUid = true ∨ jsvc.euid ≠ isvc.euid)) :
    ∃ conn, config.skips conn isvc = false ∧ config.skips conn jsvc = true := by
  have ht : ∀ uid, (isvc.anyUid = true ∨ isvc.euid = uid) →
      config.skips ⟨uid, isvc.program, config.socketOf isvc, none, isvc.selinuxCtx⟩ isvc = false :=
    fun uid hu => skips_eq_false_iff.mpr ⟨hu, gpConnCheckSelinux_self .., .inr rfl, rfl⟩
  rcases h with hs | ⟨ha, ho⟩
  · refine ⟨_, ht isvc.euid (.inr rfl), ?_⟩
    rw [← Bool.not_eq_false, skips_eq_false_iff]
    rintro ⟨-, -, -, hsa⟩
    exact hs hsa
  · obtain ⟨uid, hi, hj⟩ := exists_uid ha ho
    refine ⟨_, ht uid hi, ?_⟩
    rw [← Bool.not_eq_false, skips_eq_false_iff]
    rintro ⟨hu, -⟩
    exact hj hu

/-- One of two services leaves its socket to the daemon, the other names the path of the daemon,
    which is not the compiled-in one; and the earlier one lets the same peers in. -/
def Shadowed (config : GpConfig H) (jsvc isvc : GpService H) : Prop :=
  config.socketName ≠ GP_SOCKET_NAME ∧
  (jsvc.socket = none ∧ isvc.socket = some config.socketName ∨
    jsvc.socket = some config.socketName ∧ isvc.socket = none) ∧
  (jsvc.anyUid = true ∨ isvc.anyUid = false ∧ jsvc.euid = isvc.euid)

theorem Shadowed.socketOf (h : Shadowed config jsvc isvc) :
    config.socketOf jsvc = config.socketOf isvc := by
  obtain ⟨-, ⟨hj, hi⟩ | ⟨hj, hi⟩, -⟩ := h <;> simp [GpConfig.socketOf, hj, hi]

theorem sockets_of_ne (hs : config.socketOf isvc = config.socketOf jsvc)
    (hne : isvc.socket.getD GP_SOCKET_NAME ≠ jsvc.socket.getD GP_SOCKET_NAME) :
    config.socketName ≠ GP_SOCKET_NAME ∧
      (jsvc.socket = none ∧ isvc.socket = some config.socketName ∨
        jsvc.socket = some config.socketName ∧ isvc.socket = none) := by
  unfold GpConfig.socketOf at hs
  cases hi : isvc.socket with
  | none =>
    cases hj : jsvc.socket with
    | none => simp [hi, hj] at hne
    | some socket =>
      simp only [hi, hj, Option.getD_none, Option.getD_some] at hs hne
      subst hs
      exact ⟨fun h => hne h.symm, .inr ⟨rfl, rfl⟩⟩
  | some socket =>
    cases hj : jsvc.socket with
    | none =>
      simp only [hi, hj, Option.getD_none, Option.getD_some] at hs hne
      subst hs
      exact ⟨hne, .inl ⟨rfl, rfl⟩⟩
    | some socket' => simp only [hi, hj, Option.getD_some] at hs hne; exact absurd hs hne

theorem gpCheckServices_pair (ha : gpCheckServices config = 0) {i j : Nat} (hlt : j < i)
    (hi : config.svcs[i]? = some isvc) (hj : config.svcs[j]? = some jsvc)
    (hpr : jsvc.program = isvc.program)
    (hc : gpSelinuxCtxSame isvc.selinuxCtx jsvc.selinuxCtx = true) :
    isvc.socket.getD GP_SOCKET_NAME ≠ jsvc.socket.getD GP_SOCKET_NAME ∨
      jsvc.anyUid = false ∧ jsvc.euid ≠ isvc.euid := by
  have he : serviceErrors (fun svc : GpService H => svc.toService)
      (fun svc => svc.socket.getD GP_SOCKET_NAME)
      (fun isvc jsvc => gpSelinuxCtxSame isvc.selinuxCtx jsvc.selinuxCtx) [] config.svcs = [] := by
    unfold gpCheckServices at ha
    split at ha
    · assumption
    · cases ha
  obtain ⟨-, hpa⟩ := pairwise_of_serviceErrors config.svcs he
  obtain ⟨hil, rfl⟩ := List.getElem?_eq_some_iff.mp hi
  obtain ⟨hjl, rfl⟩ := List.getElem?_eq_some_iff.mp hj
  have hp := List.pairwise_iff_getElem.mp hpa j i hjl hil hlt
  unfold pairError at hp
  simp only [hpr, hc, ne_eq, not_true, or_false] at hp
  by_cases hs : (config.svcs[i]).socket.getD GP_SOCKET_NAME =
      (config.svcs[j]).socket.getD GP_SOCKET_NAME
  · rw [if_neg (not_not.mpr hs)] at hp
    split at hp
    · cases hp
    rename_i han
    split at hp
    · cases hp
    · rename_i heu; exact .inr ⟨Bool.eq_false_iff.mpr han, heu⟩
  · exact .inl hs

theorem Shadowed.skips (h : Shadowed config jsvc isvc) (hp : jsvc.program = isvc.program)
    (hc : jsvc.selinuxCtx = isvc.selinuxCtx) (ht : config.skips conn isvc = false) :
    config.skips conn jsvc = false := by
  obtain ⟨hu, hs, hpr, hso⟩ := skips_eq_false_iff.mp ht
  refine skips_eq_false_iff.mpr ⟨?_, hc ▸ hs, hp ▸ hpr, h.socketOf ▸ hso⟩
  obtain ⟨-, -, ha | ⟨ha, he⟩⟩ := h
  · exact .inl ha
  · rcases hu with hi | hi
    · rw [ha] at hi; cases hi
    · exact .inr (he.trans hi)

end

/-- **Accepted services are reached.**  Of two accepted services with one program and label the
    later serves a peer that the earlier skips, unless it is `Shadowed`, and with the very same
    label only then. -/
theorem not_shadowed {H : Type} (config : GpConfig H) (haccepted : gpCheckServices config = 0)
    (i j : Nat) (isvc jsvc : GpService H) (hlt : j < i) (hi : config.svcs[i]? = some isvc)
    (hj : config.svcs[j]? = some jsvc) (hprogram : jsvc.program = isvc.program)
    (hctx : gpSelinuxCtxSame isvc.selinuxCtx jsvc.selinuxCtx = true) :
    (¬ Shadowed config jsvc isvc →
      ∃ conn, config.skips conn isvc = false ∧ config.skips conn jsvc = true) ∧
    (jsvc.selinuxCtx = isvc.selinuxCtx →
      ((∃ conn, config.skips conn isvc = false ∧ config.skips conn jsvc = true) ↔
        ¬ Shadowed config jsvc isvc)) := by
  have hr : ¬ Shadowed config jsvc isvc →
      ∃ conn, config.skips conn isvc = false ∧ config.skips conn jsvc = true := by
    intro hc
    apply exists_conn
    by_cases hsa : config.socketOf isvc = config.socketOf jsvc
    · right
      rcases gpCheckServices_pair haccepted hlt hi hj hprogram hctx with hne | ⟨ha, he⟩
      · obtain ⟨hn, hso⟩ := sockets_of_ne hsa hne
        have hu : ¬ (jsvc.anyUid = true ∨ isvc.anyUid = false ∧ jsvc.euid = isvc.euid) :=
          fun hu => hc ⟨hn, hso, hu⟩
        grind
      · exact ⟨ha, .inr he⟩
    · exact .inl hsa
  refine ⟨hr, fun hse => ⟨?_, hr⟩⟩
  rintro ⟨conn, ht, hs⟩ hsh
  rw [hsh.skips hprogram hse ht] at hs
  cases hs

def plainService (name : String) (euid : UInt32) (anyUid : Bool) (socket : Option String)
    (selinuxCtx : Option SelinuxContext) : GpService Unit :=
  { (default : Service) with name, euid, anyUid, socket, selinuxCtx, credsHandle := () }

theorem nfs_and_http_reached :
    let nfs := plainService "nfs" 0 false none none
    let http := plainService "http" 48 false (some "/run/gssproxy.sock") none
    gpCheckServices ⟨"/run/gssproxy.sock", [nfs, http]⟩ = 0 ∧
    ∃ conn, GpConfig.skips ⟨"/run/gssproxy.sock", [nfs, http]⟩ conn http = false ∧
      GpConfig.skips ⟨"/run/gssproxy.sock", [nfs, http]⟩ conn nfs = true := by
  intro nfs http
  refine ⟨by decide, (not_shadowed ⟨"/run/gssproxy.sock", [nfs, http]⟩ (by decide) 1 0 http nfs
    (by decide) rfl rfl rfl rfl).1 ?_⟩
  rintro ⟨-, -, hu⟩
  revert hu
  decide

theorem accepted_and_shadowed :
    let any := plainService "any" 0 true none none
    let http := plainService "http" 48 false (some "/run/gssproxy.sock") none
    gpCheckServices ⟨"/run/gssproxy.sock", [any, http]⟩ = 0 ∧
    ∀ conn, GpConfig.skips ⟨"/run/gssproxy.sock", [any, http]⟩ conn http = false →
      GpConfig.skips ⟨"/run/gssproxy.sock", [any, http]⟩ conn any = false := by
  refine ⟨by decide, fun conn => Shadowed.skips ⟨by decide, .inl ⟨rfl, rfl⟩, .inl rfl⟩ rfl rfl⟩

/-! ## Selecting a service -/

theorem findIdx?_and_eq_iff {α : Type} (p q : α → Bool) (l : List α) :
    l.findIdx? p = l.findIdx? (fun a => p a && q a) ↔ ∀ a, l.find? p = some a → q a = true := by
  induction l with
  | nil => simp
  | cons a l ih =>
    rw [List.findIdx?_cons, List.findIdx?_cons, List.find?_cons]
    cases hp : p a with
    | false =>
      rw [← ih]
      exact (Option.map_injective fun _ _ h => Nat.succ.inj h).eq_iff
    | true =>
      cases hq : q a with
      | true => simp [hq]
      | false => simp [hq]

section

variable {H : Type} (config : GpConfig H) (conn : GpConn)

/-- The configuration as the Rust daemon has it. -/
def GpConfig.unlabelled : Config := ⟨config.socketName, config.svcs.map fun svc => svc.toService⟩

/-- The configuration without labels. -/
def GpConfig.unconfined : GpConfig H :=
  { config with svcs := config.svcs.map fun svc => { svc with selinuxCtx := none } }

/-- The place of the service that the C daemon takes. -/
def GpConfig.selected : Option Nat := config.svcs.findIdx? fun svc => !config.skips conn svc

/-- The place of the service that the Rust daemon takes. -/
def rustSelected : Option Nat :=
  config.unlabelled.services.findIdx? fun svc =>
    svc.matches config.unlabelled.socketName conn.uid conn.socket conn.program

theorem not_skips (svc : GpService H) : (!config.skips conn svc) =
    (svc.matches config.socketName conn.uid conn.socket conn.program &&
      gpConnCheckSelinux conn svc.selinuxCtx) := by
  unfold GpConfig.skips Service.matches
  cases svc.program with
  | none | some _ => cases svc.socket <;> cases svc.anyUid <;> grind

theorem rustSelected_eq : rustSelected config conn = config.svcs.findIdx? fun svc =>
    svc.matches config.socketName conn.uid conn.socket conn.program := by
  unfold rustSelected GpConfig.unlabelled
  rw [List.findIdx?_map]
  rfl

theorem rustSelected_eq_unconfined :
    rustSelected config conn = config.unconfined.selected conn := by
  rw [rustSelected_eq]
  unfold GpConfig.selected
  simp only [not_skips]
  unfold GpConfig.unconfined
  rw [List.findIdx?_map]
  congr 1
  funext svc
  simp [gpConnCheckSelinux]

/-- **The service of a peer.**  Both daemons take the first service that matches, the Rust one
    without a look at labels.  They take the same exactly if the label of the latter's choice admits
    the peer. -/
theorem service_selected :
    config.unlabelled.matchService conn.uid conn.socket conn.program =
      ((rustSelected config conn).bind fun i => config.svcs[i]?.map fun svc => svc.toService) ∧
    gpCredsMatchConn config conn = ((config.selected conn).bind fun i => config.svcs[i]?) ∧
    rustSelected config conn = config.unconfined.selected conn ∧
    (rustSelected config conn = config.selected conn ↔
      ∀ i svc, rustSelected config conn = some i → config.svcs[i]? = some svc →
        gpConnCheckSelinux conn svc.selinuxCtx = true) := by
  refine ⟨?_, List.find?_eq_bind_findIdx?_getElem?, rustSelected_eq_unconfined config conn, ?_⟩
  · unfold Config.matchService
    rw [List.find?_eq_bind_findIdx?_getElem?]
    simp only [GpConfig.unlabelled, List.getElem?_map]; rfl
  · have hf : ∀ svc, config.svcs.find? (fun svc =>
          svc.matches config.socketName conn.uid conn.socket conn.program) = some svc ↔
        ∃ i, rustSelected config conn = some i ∧ config.svcs[i]? = some svc := by
      intro svc
      rw [List.find?_eq_bind_findIdx?_getElem?, ← rustSelected_eq, Option.bind_eq_some_iff]
    unfold GpConfig.selected
    simp only [not_skips]
    rw [rustSelected_eq, findIdx?_and_eq_iff]
    simp only [hf, ← rustSelected_eq]
    constructor
    · intro h i svc hi hs; exact h svc ⟨i, hi, hs⟩
    · rintro h svc ⟨i, hi, hs⟩; exact h i svc hi hs

end

/-- A peer without a context gets the service of the confined peers from the Rust daemon. -/
theorem confined_service_selected :
    let confined := plainService "confined" 1000 false none (some ⟨"staff_u", "staff_r", "staff_t", none⟩)
    let other := plainService "other" 1000 false none none
    let config : GpConfig Unit := ⟨GP_SOCKET_NAME, [confined, other]⟩
    let conn : GpConn := ⟨1000, none, GP_SOCKET_NAME, none, none⟩
    gpCheckServices config = 0 ∧
    (checkServices GP_SOCKET_NAME
      [⟨confined.toService, some "staff_u:staff_r:staff_t"⟩, ⟨other.toService, none⟩]).toBool = true ∧
    (config.unlabelled.matchService 1000 GP_SOCKET_NAME none).map Service.name = some "confined" ∧
    (gpCredsMatchConn config conn).map (fun svc => svc.name) = some "other" := by
  decide

end GssProxy.Compat
