/- NameRights/Command/Inquiry
   digest: Looking up a name, and looking up the holder of a privilege. -/

import NameRights.Command.Task
import NameRights.Contract.Privilege
import NameRights.Contract.Registry

set_option autoImplicit false
set_option relaxedAutoImplicit false

namespace NameRights.Command

def plainCall : CallOptions := ⟨none, none⟩

/-- Shows whether a name is available, when its registration runs out, and who owns it. -/
def nameInfo (context : Context) (name : String) : Task Unit := do
  let registry ← Task.required .registryMissing context.registry
  let id := labelHash name
  Task.say ("Name: " ++ name)
  Task.say ("Token id: " ++ id.decimal)
  let available ← Task.chain .contract
    (Client.call registry (Registry.Read.available id).call plainCall)
  Task.say ("Available: " ++ toString available)
  let expires ← Task.chain .contract
    (Client.call registry (Registry.Read.nameExpires id).call plainCall)
  if expires = 0 then
    Task.say "Never registered"
  else do
    Task.say ("Expires: " ++ expires.decimal)
    let owner ← Task.chain .contract
      (Client.call registry (Registry.Read.ownerOf id).call plainCall).attempt
    match owner with
    | .ok owner => Task.say ("Owner: " ++ owner.hex)
    | .error e => Task.say ("Owner: unknown (" ++ e.message ++ ")")

/-- Shows who holds a privilege of a token and until when, and whether a user holds it. -/
def privilegeInfo (context : Context) (tokenId privilegeId : Word) (user : Option Address) :
    Task Unit := do
  let privilege ← Task.required .privilegeMissing context.privilege
  let total ← Task.chain .contract
    (Client.call privilege Privilege.Read.privilegeTotal.call plainCall)
  if privilegeId ≥ total then
    Session.fail (.outOfRange privilegeId total)
  else do
    let (holder, expires) ← Task.chain .contract
      (Client.call privilege (Privilege.Read.privilegeOf tokenId privilegeId).call plainCall)
    Task.say ("Holder: " ++ holder.hex)
    Task.say ("Expires: " ++ expires.decimal)
    match user with
    | none => pure ()
    | some user =>
      let holds ← Task.chain .contract (Client.call privilege
        (Privilege.Read.hasPrivilege tokenId privilegeId user).call plainCall)
      Task.say (user.hex ++ " holds privilege: " ++ toString holds)

end NameRights.Command
