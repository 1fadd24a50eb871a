import ClientEngagement.Campaigns.Sending
import ClientEngagement.Review.Decisions

/-!
# The real senders

Model of `delivery/sender.py`, `delivery/sms_sender.py` and `delivery/test_recipients.py`: what the
email and the text message sender make of an approved message (`emailFor`, `smsFor`), up to the call of
the mailer or the gateway, and what they report once it has returned. In live mode both hand over the
personalized content as it is (`outgoing_live`).
-/

namespace ClientEngagement.Delivery
open Campaigns (CampaignId ClientId MessageId Database SendResult)
open Review (OutreachMessage Content)
open Rules (isSpace)

structure EmailMessage where
  toAddress : String
  subject : String
  textBody : String
  cc : List String := []

structure SmsMessage where
  toNumber : String
  body : String

/-- What a mailer or a gateway is given. -/
inductive Outgoing where
  | email (message : EmailMessage)
  | sms (message : SmsMessage)

/-- The settings and tables the senders read beside the campaign tables. `faEmails` has the account
    managers of a client in both books. -/
structure SenderEnv extends Campaigns.Env where
  testSubjectPrefix : String := "[TEST]"
  liveSmsToTestList : Bool := true
  tables : Unicode
  faEmails : Dict ClientId (List String) := .empty

/-- Why a sender raised before it handed anything over. -/
inductive SenderError where
  | blocked (reason : String)
  | keyError (field : String)
deriving DecidableEq

/-- `str.strip`. -/
def strip (text : String) : String :=
  String.ofList (((text.toList.dropWhile isSpace).reverse.dropWhile isSpace).reverse)

/-! ## Addresses -/

/-- `_EMAIL_SHAPE`. -/
def emailShape : Regex Char :=
  let part := .plus (.one fun c => c ≠ '@' ∧ ¬ isSpace c)
  .seqs [.start, part, .lit ['@'], part, .lit ['.'], part, .stop (· = '\n')]

def isCytonnAddress (tables : Unicode) (email : String) : Bool :=
  "@cytonn.com".toList.isSuffixOf (lower tables email.toList)

/-- `_advisor_emails`. -/
def advisorEmails (env : SenderEnv) (clientId : ClientId) : List String :=
  sortBy id ((env.faEmails.getD clientId []).dedup.filter fun address =>
    emailShape.matchesPrefix address.toList && isCytonnAddress env.tables address)

/-- `_sends_so_far`. -/
def sendsSoFar (db : Database) (campaignId : CampaignId) (channel : String) : ℕ :=
  (db.touches.items.filter fun (key, touch) =>
    (db.enrollments.get? key.1).any (·.campaignId = campaignId) ∧
      (touch.messageId.bind db.messages.get?).any (·.channel = channel) ∧
      touch.sentAt.isSome).length

/-- Testers take turns. -/
def pickTestRecipient (db : Database) (channel : String) (campaignId : CampaignId) :
    Except SenderError String :=
  let contacts := Campaigns.activeTestContacts db channel
  let turn := (campaignId + sendsSoFar db campaignId channel) % contacts.length
  match contacts[turn.toNat]? with
  | none => .error (.blocked "no_test_recipient")
  | some contact => .ok contact

/-- `ensure_test_recipient`. -/
def ensureTestRecipient (db : Database) (contact channel : String) : Except SenderError Unit :=
  if contact ∈ Campaigns.activeTestContacts db channel then .ok ()
  else .error (.blocked "recipient_not_on_test_list")

/-- A contact on file that is not empty. -/
def deliverable (contact : Option String) : Except SenderError String :=
  match contact.filter (· ≠ "") with
  | none => .error (.blocked "no_deliverable_contact")
  | some contact => .ok contact

/-- The tester whose turn it is, checked again right before sending. -/
def testRecipient (db : Database) (channel : String) (campaignId : CampaignId) :
    Except SenderError String :=
  (pickTestRecipient db channel campaignId).bind fun contact =>
    (deliverable (some contact)).bind fun contact =>
      (ensureTestRecipient db contact channel).map fun _ => contact

/-! ## The senders -/

def contentOf (message : OutreachMessage) : Except SenderError Content :=
  match message.personalizedContent.filter fun content => ¬ content.items.isEmpty with
  | none => .error (.blocked "no_personalized_content")
  | some content => .ok content

def fieldOf (content : Content) (field : String) : Except SenderError String :=
  match content.get? field with
  | none => .error (.keyError field)
  | some text => .ok text

/-- The email for a message (`build_email_sender`). -/
def emailFor (env : SenderEnv) (db : Database) (message : OutreachMessage) :
    Except SenderError EmailMessage :=
  (contentOf message).bind fun content =>
    (fieldOf content "subject").bind fun subject =>
      (fieldOf content "body").bind fun body =>
        match env.deliveryMode with
        | .test =>
          (testRecipient db "email" message.campaignId).map fun contact =>
            { toAddress := contact
              subject := strip env.testSubjectPrefix ++ " " ++ subject
              textBody := body ++ "\n\n--\nTest send for client " ++ toString message.clientId ++
                ", campaign " ++ toString message.campaignId ++ "." }
        | .live =>
          (deliverable ((db.vault.get? message.clientId).bind (·.contactEmail))).map fun contact =>
            { toAddress := contact
              subject := subject
              textBody := body
              cc := advisorEmails env message.clientId }

/-- The text message for a message (`build_sms_sender`). -/
def smsFor (env : SenderEnv) (db : Database) (message : OutreachMessage) :
    Except SenderError SmsMessage :=
  (contentOf message).bind fun content =>
    (fieldOf content "body").bind fun body =>
      let isTest := env.deliveryMode = .test
      let text := if isTest then
          strip env.testSubjectPrefix ++ " " ++ body ++ " (client " ++ toString message.clientId ++ ")"
        else body
      (if isTest ∨ env.liveSmsToTestList then testRecipient db "sms" message.campaignId
        else deliverable ((db.vault.get? message.clientId).bind (·.contactPhone))).map fun contact =>
          { toNumber := contact, body := text }

/-- What the sender of the message's channel hands over; channels without one of their own fall back to
    email. -/
def outgoingFor (env : SenderEnv) (db : Database) (message : OutreachMessage) :
    Except SenderError Outgoing :=
  if message.channel = "sms" then (smsFor env db message).map .sms
  else (emailFor env db message).map .email

/-- What a sender reports once the provider has returned. -/
def sendResult (env : SenderEnv) (sent : Bool) (providerStatus : Option String) (parts : Option ℤ)
    (cost : Option ℚ) : SendResult where
  deliveryStatus := if sent then "sent" else "recorded"
  sentAt := env.now
  providerStatus := providerStatus
  parts := parts
  cost := cost

/-! ## What is handed over in live mode -/

def Outgoing.subject? : Outgoing → Option String
  | .email message => some message.subject
  | .sms _ => none

def Outgoing.body : Outgoing → String
  | .email message => message.textBody
  | .sms message => message.body

variable {env : SenderEnv} {db : Database} {message : OutreachMessage} {outgoing : Outgoing}

lemma contentOf_ok {content : Content} (h : contentOf message = .ok content) :
    message.personalizedContent = some content := by
  rw [contentOf] at h
  split at h
  · cases h
  · rename_i stored
    cases h
    exact (Option.filter_eq_some_iff.mp stored).1

lemma fieldOf_ok {content : Content} {field text : String} (h : fieldOf content field = .ok text) :
    content.get? field = some text := by
  rw [fieldOf] at h
  split at h
  · cases h
  · rename_i stored
    cases h
    exact stored

/-- In live mode the subject and the body are those of the personalized content. -/
theorem outgoing_live (live : env.deliveryMode = .live) (h : outgoingFor env db message = .ok outgoing) :
    ∃ content, message.personalizedContent = some content ∧
      content.get? "body" = some outgoing.body ∧
      ∀ subject, outgoing.subject? = some subject →
        message.channel ≠ "sms" ∧ content.get? "subject" = some subject := by
  rw [outgoingFor] at h
  split at h
  · obtain ⟨sms, made, same⟩ := map_eq_ok.mp h
    cases same
    obtain ⟨content, hasContent, made⟩ := bind_eq_ok.mp made
    obtain ⟨body, hasBody, made⟩ := bind_eq_ok.mp made
    have isLive : ¬ env.deliveryMode = .test := by
      rw [live]
      nofun
    simp only [isLive, if_false, false_or] at made
    obtain ⟨contact, -, same⟩ := map_eq_ok.mp made
    cases same
    exact ⟨content, contentOf_ok hasContent, fieldOf_ok hasBody, nofun⟩
  · rename_i email
    obtain ⟨mail, made, same⟩ := map_eq_ok.mp h
    cases same
    obtain ⟨content, hasContent, made⟩ := bind_eq_ok.mp made
    obtain ⟨subject, hasSubject, made⟩ := bind_eq_ok.mp made
    obtain ⟨body, hasBody, made⟩ := bind_eq_ok.mp made
    rw [live] at made
    obtain ⟨contact, -, same⟩ := map_eq_ok.mp made
    cases same
    refine ⟨content, contentOf_ok hasContent, fieldOf_ok hasBody, ?_⟩
    intro subject' same
    cases same
    exact ⟨email, fieldOf_ok hasSubject⟩

end ClientEngagement.Delivery
