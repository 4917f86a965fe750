/- NameRights/Command/Basic
   digest: The commands an operator can give. -/

import NameRights.Command.Signing
import NameRights.Command.Watch

set_option autoImplicit false
set_option relaxedAutoImplicit false

namespace NameRights

/-- A command of an operator. -/
inductive Subcommand where
  /-- Shows owner, expiry and availability of a name. -/
  | nameInfo (name : String)
  /-- Shows the holder of a privilege of a token, and whether a user holds it. -/
  | privilegeInfo (tokenId privilegeId : Word) (user : Option Address)
  /-- Registers a name for some seconds. -/
  | register (name : String) (owner : Address) (duration : Word)
  /-- Assigns a privilege of a token to a user until a time. -/
  | setPrivilege (tokenId privilegeId : Word) (user : Address) (expires : Word)
  /-- Lists past registrations and privilege assignments. -/
  | events (range : BlockRange)
  /-- Prints transfers as they happen. -/
  | watch (fromBlock : Option Count)
  deriving Repr

def Subcommand.perform (command : Subcommand) (context : Context) (script : Script) : Performance :=
  match command with
  | .nameInfo name => (Command.nameInfo context name).perform script
  | .privilegeInfo tokenId privilegeId user =>
    (Command.privilegeInfo context tokenId privilegeId user).perform script
  | .register name owner duration => (Command.register context name owner duration).perform script
  | .setPrivilege tokenId privilegeId user expires =>
    (Command.setPrivilege context tokenId privilegeId user expires).perform script
  | .events range => (Command.events context range).perform script
  | .watch fromBlock => Command.watch context fromBlock script

end NameRights
