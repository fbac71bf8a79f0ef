import BpfBoot.Path

namespace BpfBoot

structure Location where
  dir : Path
  pin : String
  deriving DecidableEq, Repr

namespace Location

/-- A pin directory that no location loads into. It exists for the policy rules that name it. -/
def reservedPin : String := "loader"

def table : List (String × String) :=
  [("etc/bpf/", "tethering/"), ("etc/bpf/netd_shared/", "netd_shared/"),
    ("etc/bpf/netd_readonly/", "netd_readonly/"), ("etc/bpf/net_shared/", "net_shared/"),
    ("etc/bpf/net_private/", "net_private/")]

def ofMount (mount : Path) : List Location :=
  table.map fun row => ⟨mount.join (.ofString row.1), row.2⟩

end Location

end BpfBoot
