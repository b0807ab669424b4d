import EventDispatch.Event.Basic
import EventDispatch.Event.DottedName

namespace EventDispatch.Catalog

def orderCreated : EventType where
  typeName := "OrderCreated"
  eventName := "order.created"
  fields := [⟨"order_id", .text⟩, ⟨"total_cents", .natural⟩, ⟨"occurred_at", .timestamp⟩]
  stamp := .later (.later .here)

def legacyOrderCreated : EventType where
  typeName := "LegacyOrderCreated"
  eventName := "order.created"
  fields := [⟨"id", .natural⟩, ⟨"occurred_at", .timestamp⟩]
  stamp := .later .here

def userLogin : EventType where
  typeName := "UserLogin"
  eventName := "user.login"
  fields := [⟨"user_id", .text⟩, ⟨"at", .timestamp⟩]
  stamp := .later .here

def cartItemAdded : EventType where
  typeName := "CartItemAdded"
  eventName := dottedName "CartItemAdded"
  fields := [⟨"sku", .text⟩, ⟨"note", .optionalText⟩, ⟨"quantities", .integers⟩,
    ⟨"occurred_at", .timestamp⟩]
  stamp := .later (.later (.later .here))

def types : List EventType := [orderCreated, legacyOrderCreated, userLogin, cartItemAdded]

def find? (typeName : String) : Option EventType := types.find? (·.typeName == typeName)

end EventDispatch.Catalog
