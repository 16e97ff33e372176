import TradingStatus.Time.Zone

/-! Zones of Asia. The histories of Tokyo, Hong Kong and Singapore go back to their first standard
time, those of the others to 1970. -/

namespace TradingStatus.ZoneRecord

/-- `Asia/Tokyo`. -/
def tokyo : ZoneRecord where
  first := 33539
  changes := [
    (-2587712400, 32400), (-683802000, 36000), (-672310800, 32400), (-654771600, 36000),
    (-640861200, 32400), (-620298000, 36000), (-609411600, 32400), (-588848400, 36000),
    (-577962000, 32400)]
  rule := .fixed 32400

/-- `Asia/Hong_Kong`. -/
def hongKong : ZoneRecord where
  first := 27402
  changes := [
    (-2056690800, 28800), (-900910800, 32400), (-891579600, 30600), (-884248200, 32400),
    (-761209200, 28800), (-747907200, 32400), (-728541000, 28800), (-717049800, 32400),
    (-697091400, 28800), (-683785800, 32400), (-668061000, 28800), (-654755400, 32400),
    (-636611400, 28800), (-623305800, 32400), (-605161800, 28800), (-591856200, 32400),
    (-573712200, 28800), (-559801800, 32400), (-541657800, 28800), (-528352200, 32400),
    (-510211800, 28800), (-498112200, 32400), (-478762200, 28800), (-466662600, 32400),
    (-446707800, 28800), (-435213000, 32400), (-415258200, 28800), (-403158600, 32400),
    (-383808600, 28800), (-371709000, 32400), (-352359000, 28800), (-340259400, 32400),
    (-320909400, 28800), (-308809800, 32400), (-288855000, 28800), (-277360200, 32400),
    (-257405400, 28800), (-245910600, 32400), (-225955800, 28800), (-213856200, 32400),
    (-194506200, 28800), (-182406600, 32400), (-163056600, 28800), (-148537800, 32400),
    (-132816600, 28800), (-117088200, 32400), (-101367000, 28800), (-85638600, 32400),
    (-69312600, 28800), (-53584200, 32400), (-37863000, 28800), (-22134600, 32400),
    (-6413400, 28800), (9315000, 32400), (25036200, 28800), (40764600, 32400), (56485800, 28800),
    (72214200, 32400), (88540200, 28800), (104268600, 32400), (119989800, 28800),
    (126041400, 32400), (151439400, 28800), (167167800, 32400), (182889000, 28800),
    (198617400, 32400), (214338600, 28800), (295385400, 32400), (309292200, 28800)]
  rule := .fixed 28800

/-- `Asia/Singapore`. -/
def singapore : ZoneRecord where
  first := 24925
  changes := [
    (-2038200925, 25200), (-1167634800, 26400), (-894180000, 27000), (-879665400, 32400),
    (-767005200, 27000), (378662400, 28800)]
  rule := .fixed 28800

/-- `Asia/Kolkata`. -/
def kolkata : ZoneRecord where
  first := 19800
  changes := []
  rule := .fixed 19800

/-- `Asia/Kathmandu`. -/
def kathmandu : ZoneRecord where
  first := 19800
  changes := [
    (504901800, 20700)]
  rule := .fixed 20700

/-- `Asia/Jerusalem`. -/
def jerusalem : ZoneRecord where
  first := 7200
  changes := [
    (142380000, 10800), (150843600, 7200), (167176800, 10800), (178664400, 7200),
    (334101600, 10800), (337730400, 7200), (452642400, 10800), (462319200, 7200),
    (482277600, 10800), (494370000, 7200), (516751200, 10800), (526424400, 7200),
    (545436000, 10800), (558478800, 7200), (576626400, 10800), (589323600, 7200),
    (609890400, 10800), (620773200, 7200), (638316000, 10800), (651618000, 7200),
    (669765600, 10800), (683672400, 7200), (701820000, 10800), (715726800, 7200),
    (733701600, 10800), (747176400, 7200), (765151200, 10800), (778021200, 7200),
    (796600800, 10800), (810075600, 7200), (826840800, 10800), (842821200, 7200),
    (858895200, 10800), (874184400, 7200), (890344800, 10800), (905029200, 7200),
    (923011200, 10800), (936313200, 7200), (955670400, 10800), (970783200, 7200),
    (986770800, 10800), (1001282400, 7200), (1017356400, 10800), (1033941600, 7200),
    (1048806000, 10800), (1065132000, 7200), (1081292400, 10800), (1095804000, 7200),
    (1112313600, 10800), (1128812400, 7200), (1143763200, 10800), (1159657200, 7200),
    (1175212800, 10800), (1189897200, 7200), (1206662400, 10800), (1223161200, 7200),
    (1238112000, 10800), (1254006000, 7200), (1269561600, 10800), (1284246000, 7200),
    (1301616000, 10800), (1317510000, 7200), (1333065600, 10800), (1348354800, 7200),
    (1364515200, 10800)]
  rule := .seasonal 7200 10800 ⟨3, 4, 4, 93600⟩ ⟨10, 5, 0, 7200⟩

end TradingStatus.ZoneRecord
