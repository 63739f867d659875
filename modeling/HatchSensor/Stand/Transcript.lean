import HatchSensor.Board.Platform
import HatchSensor.Json.Value

/-!
# Transcripts of the test stand

What the stand notes is written down as a list of records.  A record gives the name by which the
chip's interface knows the call and the arguments as the chip gets them, parts of structures one
after the other.  Looking at the clock, looking for an event of the broker and registering
the handlers of the attribute server leave no record.
-/

namespace HatchSensor

/-- What the stand notes. -/
inductive StandEntry where
  | call (call : ChipCall)
  /-- A look at the interface, while an address is waited for. -/
  | lookAtInterface
  /-- A payload that was shown. -/
  | display (payload : Bytes)

/-- A call in writing. -/
structure CallRecord where
  /-- The name of the call. -/
  name : String
  arguments : List Json

namespace CallRecord

/-! ## Arguments -/

/-- A number. -/
def count (n : Nat) : Json := .number (.integer n)

/-- Bytes as hexadecimal digits. -/
def digits (bytes : Bytes) : Json := .string (Bytes.toHex bytes)

/-- Bytes as the text they encode. -/
def text (bytes : Bytes) : Json := .string ((Bytes.decodeUtf8 bytes).getD "")

/-- An identifier of two bytes. -/
def shortUuid (uuid : Nat) : Json := .array [count 2, count uuid]

/-- A message is delivered at least once. -/
def quality : Json := .string "AtLeastOnce"

/-- How a network is protected. -/
def protection (isOpen : Bool) : Json := .string (if isOpen then "None" else "WPA2Personal")

/-- How advertisements are sent. -/
def ofAdvertising (a : AdvertisingParameters) : List Json :=
  [count a.shortest, count a.longest, count a.kind, count a.ownAddress,
    .array (a.peer.map count), count a.peerAddress, count a.channels, count a.filter]

/-- What advertisements say.  They carry no data of the manufacturer or of the service. -/
def ofAdvertised (a : AdvertisingData) : List Json :=
  [.bool a.isScanResponse, .bool a.includesName, .bool a.includesPower, count a.shortest,
    count a.longest, count a.appearance, count 0, count 0, digits a.service, count a.flags]

/-- How a session with the broker is opened; timeouts are milliseconds here. -/
def ofSettings (s : BrokerSettings) : List Json :=
  [.string s.address, .string s.client, .string s.certificate, .string s.privateKey,
    (s.rootCa.map Json.string).getD .null, .bool s.rootCa.isNone, count s.keepAlive,
    count (s.timeout / 1000), count s.bufferSize, .bool s.keepsState]

/-- A response to a client of the attribute server. -/
def ofResponse (r : AttributeResponse) : List Json :=
  [count r.interface, count r.connection, count r.transaction, count 0, count r.handle,
    count r.offset, count 0, digits r.value]

/-! ## Calls -/

/-- The record of a call, if it leaves one. -/
def ofCall : ChipCall → Option CallRecord
  | .linkPatches => some ⟨"link_patches", []⟩
  | .takePeripherals => some ⟨"peripherals_take", []⟩
  | .takeEventLoop => some ⟨"event_loop_take", []⟩
  | .takePartition => some ⟨"nvs_partition_take", []⟩
  | .openStore area writable => some ⟨"nvs_open", [.string area, .bool writable]⟩
  | .blobLength name => some ⟨"nvs_len", [.string name]⟩
  | .blobContent name size => some ⟨"nvs_get", [.string name, count size]⟩
  | .setBlob name content => some ⟨"nvs_set", [.string name, digits content]⟩
  | .removeBlob name => some ⟨"nvs_remove", [.string name]⟩
  | .wakeCause => some ⟨"wakeup_cause", []⟩
  | .armTimer duration => some ⟨"enable_timer_wakeup", [count duration]⟩
  | .armPin pin level => some ⟨"enable_ext0_wakeup", [count pin, count level]⟩
  | .startSleep => some ⟨"deep_sleep_start", []⟩
  | .releasePin pin => some ⟨"rtc_gpio_deinit", [count pin]⟩
  | .uptime => some ⟨"timer_get_time", []⟩
  | .setClock seconds microseconds => some ⟨"settimeofday", [count seconds, count microseconds]⟩
  | .clock => none
  | .startTimeService => some ⟨"sntp_new", []⟩
  | .macAddress => some ⟨"mac_get_default", []⟩
  | .openInput => some ⟨"pin_input", []⟩
  | .pullUp => some ⟨"pin_set_pull", [.string "up"]⟩
  | .openTimerService => some ⟨"timer_service_new", []⟩
  | .createTimer => some ⟨"timer_new", []⟩
  | .startTimer period => some ⟨"timer_every", [count period]⟩
  | .openBus baud data clock => some ⟨"i2c_new", [count baud, .bool data, .bool clock]⟩
  | .initSensor => some ⟨"bme280_init", []⟩
  | .measure => some ⟨"bme280_measure", []⟩
  | .createWifi => some ⟨"wifi_new", [.bool true]⟩
  | .wrapWifi => some ⟨"wifi_wrap", []⟩
  | .configureWifi ssid password isOpen =>
    some ⟨"wifi_configure", [.string ssid, .string password, protection isOpen, .null]⟩
  | .startWifi => some ⟨"wifi_start", []⟩
  | .joinWifi => some ⟨"wifi_connect", []⟩
  | .awaitAddress timeout => some ⟨"wifi_ip_wait", [count (timeout / 1000)]⟩
  | .readAddress => some ⟨"netif_ip_info", []⟩
  | .isJoined => some ⟨"wifi_is_connected", []⟩
  | .leaveWifi => some ⟨"wifi_disconnect", []⟩
  | .stopWifi => some ⟨"wifi_stop", []⟩
  | .dropWifi => some ⟨"wifi_drop", []⟩
  | .createBluetooth => some ⟨"bt_new", [.bool true]⟩
  | .dropBluetooth => some ⟨"bt_drop", []⟩
  | .registerServerHandler => none
  | .registerAdvertisingHandler => none
  | .setDeviceName name => some ⟨"gap_set_device_name", [.string name]⟩
  | .registerApp app => some ⟨"gatts_app_register", [count app]⟩
  | .unregisterApp interface => some ⟨"gatts_app_unregister", [count interface]⟩
  | .closeConnection interface connection =>
    some ⟨"gatts_close", [count interface, count connection]⟩
  | .stopAdvertising => some ⟨"gap_stop_advertising", []⟩
  | .startAdvertising parameters => some ⟨"gap_start_advertising", ofAdvertising parameters⟩
  | .setAdvertisingData data => some ⟨"gap_config_adv_data", ofAdvertised data⟩
  | .createService interface uuid handles =>
    some ⟨"gatts_create_service",
      [count interface, .bool true, count 0, shortUuid uuid, count handles]⟩
  | .startService service => some ⟨"gatts_start_service", [count service]⟩
  | .addCharacteristic service uuid permissions properties =>
    some ⟨"gatts_add_char",
      [count service, shortUuid uuid, count permissions, count properties]⟩
  | .addDescriptor service uuid permissions =>
    some ⟨"gatts_add_char_descr", [count service, shortUuid uuid, count permissions]⟩
  | .notify interface connection handle payload =>
    some ⟨"gatts_send_indicate",
      [count interface, count connection, count handle, text payload, .bool false]⟩
  | .respond response => some ⟨"gatts_send_response", ofResponse response⟩
  | .openBroker settings => some ⟨"mqtt_new", ofSettings settings⟩
  | .subscribe topic => some ⟨"mqtt_subscribe", [.string topic, quality]⟩
  | .publish topic payload =>
    some ⟨"mqtt_publish", [.string topic, quality, .bool false, text payload]⟩
  | .enqueue topic payload =>
    some ⟨"mqtt_enqueue", [.string topic, quality, .bool false, text payload]⟩
  | .receive _ => none
  | .dropBroker => some ⟨"mqtt_drop", []⟩

end CallRecord

namespace StandEntry

/-- The record of an entry, if it leaves one. -/
def record : StandEntry → Option CallRecord
  | .call c => CallRecord.ofCall c
  | .lookAtInterface => some ⟨"netif_is_up", []⟩
  | .display payload =>
    some ⟨"sink_write", [CallRecord.count payload.length, CallRecord.digits payload]⟩

/-- The name of an entry, under which a script has its responses. -/
def name (entry : StandEntry) : String :=
  (entry.record.map CallRecord.name).getD ""

end StandEntry

end HatchSensor
