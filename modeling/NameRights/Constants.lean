/- NameRights/Constants
   digest: Roles, interface ids and the defaults of log feeds. -/

import NameRights.Hashing

set_option autoImplicit false
set_option relaxedAutoImplicit false

namespace NameRights

def Role.defaultAdmin : Hash := ⟨0⟩

def Role.registrar : Hash := .ofText "REGISTRAR_ROLE"

def Role.minter : Hash := .ofText "MINTER_ROLE"

def InterfaceId.detection : Selector := ⟨0x01ffc9a7⟩

def InterfaceId.token : Selector := ⟨0x80ac58cd⟩

def InterfaceId.tokenMetadata : Selector := ⟨0x5b5e139f⟩

def InterfaceId.accessControl : Selector := ⟨0x7965db0b⟩

/-- Milliseconds between two polls of a watched log filter. -/
def defaultPollInterval : Nat := 2000

/-- Logs held between a log feed and its consumer. -/
def defaultLogBuffer : Nat := 128

end NameRights
