-- The law of `XL_SSH_CMD`: formatting it at import never raises and keeps one
-- `%s`, for every login user and known-hosts file, and filling that with the
-- cluster name gives the whole ssh command when neither holds a `%`.
import Mathlib.Data.List.Basic

namespace ganeti.constants

/-! ## Python's `%` on strings -/

/-- Python's `fmt % args` on a format string and a tuple of strings, for the
conversions `%s` and `%%`. `none` is the error Python raises: too few arguments,
arguments left over, or a conversion this model leaves out. -/
def formatChars : List Char → List String → Option (List Char)
  | [], [] => some []
  | [], _ :: _ => none
  | '%' :: '%' :: rest, args => ('%' :: ·) <$> formatChars rest args
  | '%' :: 's' :: rest, a :: args => (a.toList ++ ·) <$> formatChars rest args
  | '%' :: _, _ => none
  | c :: rest, args => (c :: ·) <$> formatChars rest args

def pyFormat (fmt : String) (args : List String) : Option String :=
  String.mk <$> formatChars fmt.toList args

/-- `XL_SSH_CMD`, formatted with the `SSH_LOGIN_USER` of `_constants` and the
`SSH_KNOWN_HOSTS_FILE` of `pathutils`; `none` if the formatting raises. -/
def XL_SSH_CMD (SSH_LOGIN_USER SSH_KNOWN_HOSTS_FILE : String) : Option String :=
  pyFormat ("ssh -l %s -oGlobalKnownHostsFile=%s" ++
            " -oUserKnownHostsFile=/dev/null" ++
            " -oCheckHostIp=no -oStrictHostKeyChecking=yes" ++
            " -oHostKeyAlias=%%s") [SSH_LOGIN_USER, SSH_KNOWN_HOSTS_FILE]

/-! ## Text with no `%` -/

theorem formatChars_cons_of_ne {c : Char} (hc : c ≠ '%') (rest : List Char) (args : List String) :
    formatChars (c :: rest) args = (c :: ·) <$> formatChars rest args := by
  simp [formatChars, hc]

/-- Text with no `%` is copied, and the arguments are left to what follows. -/
theorem formatChars_append_of_not_mem {l : List Char} (hl : '%' ∉ l) (rest : List Char)
    (args : List String) : formatChars (l ++ rest) args = (l ++ ·) <$> formatChars rest args := by
  induction l with
  | nil => simp
  | cons c l ih =>
    rw [List.mem_cons, not_or] at hl
    rw [List.cons_append, formatChars_cons_of_ne (Ne.symm hl.1), ih hl.2]
    simp [Functor.map_map, Function.comp_def]

theorem formatChars_percent_s (rest : List Char) (a : String) (args : List String) :
    formatChars ('%' :: 's' :: rest) (a :: args) = (a.toList ++ ·) <$> formatChars rest args := by
  simp [formatChars]

theorem formatChars_percent_percent (rest : List Char) (args : List String) :
    formatChars ('%' :: '%' :: rest) args = ('%' :: ·) <$> formatChars rest args := by
  simp [formatChars]

/-! ## The law -/

/-- Formatting at import never raises, whatever the login user and the known-hosts
file are, and leaves one `%s`: the `%%s` of the source. -/
theorem XL_SSH_CMD_eq (SSH_LOGIN_USER SSH_KNOWN_HOSTS_FILE : String) :
    XL_SSH_CMD SSH_LOGIN_USER SSH_KNOWN_HOSTS_FILE =
      some ("ssh -l " ++ SSH_LOGIN_USER ++ " -oGlobalKnownHostsFile=" ++ SSH_KNOWN_HOSTS_FILE ++
        " -oUserKnownHostsFile=/dev/null -oCheckHostIp=no -oStrictHostKeyChecking=yes" ++
        " -oHostKeyAlias=" ++ "%s") := by
  have h : ("ssh -l %s -oGlobalKnownHostsFile=%s" ++ " -oUserKnownHostsFile=/dev/null" ++
      " -oCheckHostIp=no -oStrictHostKeyChecking=yes" ++ " -oHostKeyAlias=%%s").toList =
      "ssh -l ".toList ++ '%' :: 's' :: (" -oGlobalKnownHostsFile=".toList ++ '%' :: 's' ::
        ((" -oUserKnownHostsFile=/dev/null -oCheckHostIp=no -oStrictHostKeyChecking=yes" ++
          " -oHostKeyAlias=").toList ++ ['%', '%', 's'])) := rfl
  have h1 : '%' ∉ "ssh -l ".toList := by decide
  have h2 : '%' ∉ " -oGlobalKnownHostsFile=".toList := by decide
  have h3 : '%' ∉ (" -oUserKnownHostsFile=/dev/null -oCheckHostIp=no -oStrictHostKeyChecking=yes" ++
      " -oHostKeyAlias=").toList := by decide
  simp only [XL_SSH_CMD, pyFormat, h, formatChars_append_of_not_mem h1,
    formatChars_append_of_not_mem h2, formatChars_append_of_not_mem h3,
    formatChars_percent_s, formatChars_percent_percent,
    formatChars_cons_of_ne (show 's' ≠ '%' by decide)]
  simp [formatChars, String.ext_iff]

/-- Filling that `%s` with the cluster name, as the comment on `XL_SSH_CMD` asks,
gives the whole command, for every login user and known-hosts file with no `%`. -/
theorem XL_SSH_CMD_fill (SSH_LOGIN_USER SSH_KNOWN_HOSTS_FILE cluster : String)
    (hu : '%' ∉ SSH_LOGIN_USER.toList) (hk : '%' ∉ SSH_KNOWN_HOSTS_FILE.toList) :
    (XL_SSH_CMD SSH_LOGIN_USER SSH_KNOWN_HOSTS_FILE).bind (pyFormat · [cluster]) =
      some ("ssh -l " ++ SSH_LOGIN_USER ++ " -oGlobalKnownHostsFile=" ++ SSH_KNOWN_HOSTS_FILE ++
        " -oUserKnownHostsFile=/dev/null -oCheckHostIp=no -oStrictHostKeyChecking=yes" ++
        " -oHostKeyAlias=" ++ cluster) := by
  have h1 : '%' ∉ "ssh -l ".data := by decide
  have h2 : '%' ∉ " -oGlobalKnownHostsFile=".data := by decide
  have h3 : '%' ∉
      " -oUserKnownHostsFile=/dev/null -oCheckHostIp=no -oStrictHostKeyChecking=yes".data := by
    decide
  have h4 : '%' ∉ " -oHostKeyAlias=".data := by decide
  have hu : '%' ∉ SSH_LOGIN_USER.data := hu
  have hk : '%' ∉ SSH_KNOWN_HOSTS_FILE.data := hk
  rw [XL_SSH_CMD_eq]
  simp only [Option.some_bind, pyFormat, String.toList, String.data_append, List.append_assoc,
    formatChars_append_of_not_mem h1, formatChars_append_of_not_mem hu,
    formatChars_append_of_not_mem h2, formatChars_append_of_not_mem hk,
    formatChars_append_of_not_mem h3, formatChars_append_of_not_mem h4,
    show "%s".data = ['%', 's'] from rfl, formatChars_percent_s]
  simp [formatChars, String.ext_iff]

/-- The law of `XL_SSH_CMD`: the formatting at import never raises, whatever the
login user and the known-hosts file are, and leaves the one `%s` of the source's
`%%s`; filling that with the cluster name gives the whole command when neither the
user nor the file holds a `%`. -/
theorem xl_ssh_cmd_filled (SSH_LOGIN_USER SSH_KNOWN_HOSTS_FILE : String) :
    XL_SSH_CMD SSH_LOGIN_USER SSH_KNOWN_HOSTS_FILE =
      some ("ssh -l " ++ SSH_LOGIN_USER ++ " -oGlobalKnownHostsFile=" ++ SSH_KNOWN_HOSTS_FILE ++
        " -oUserKnownHostsFile=/dev/null -oCheckHostIp=no -oStrictHostKeyChecking=yes" ++
        " -oHostKeyAlias=" ++ "%s") ∧
    ∀ cluster : String, '%' ∉ SSH_LOGIN_USER.toList → '%' ∉ SSH_KNOWN_HOSTS_FILE.toList →
      (XL_SSH_CMD SSH_LOGIN_USER SSH_KNOWN_HOSTS_FILE).bind (pyFormat · [cluster]) =
        some ("ssh -l " ++ SSH_LOGIN_USER ++ " -oGlobalKnownHostsFile=" ++ SSH_KNOWN_HOSTS_FILE ++
          " -oUserKnownHostsFile=/dev/null -oCheckHostIp=no -oStrictHostKeyChecking=yes" ++
          " -oHostKeyAlias=" ++ cluster) :=
  ⟨XL_SSH_CMD_eq _ _, XL_SSH_CMD_fill _ _⟩

theorem xl_ssh_cmd_filled_root :
    '%' ∉ "root".toList ∧ '%' ∉ "/var/lib/ganeti/known_hosts".toList ∧
    (XL_SSH_CMD "root" "/var/lib/ganeti/known_hosts").bind (pyFormat · ["cluster.example.com"]) =
      some ("ssh -l " ++ "root" ++ " -oGlobalKnownHostsFile=" ++ "/var/lib/ganeti/known_hosts" ++
        " -oUserKnownHostsFile=/dev/null -oCheckHostIp=no -oStrictHostKeyChecking=yes" ++
        " -oHostKeyAlias=" ++ "cluster.example.com") :=
  ⟨by decide, by decide,
    (xl_ssh_cmd_filled "root" "/var/lib/ganeti/known_hosts").2 "cluster.example.com" (by decide)
      (by decide)⟩

set_option maxRecDepth 4000 in
/-- A `%s` in the login user takes the cluster name, and the fill then raises. -/
example : (XL_SSH_CMD "a%s" "k").bind (pyFormat · ["c"]) = none := by decide

end ganeti.constants
