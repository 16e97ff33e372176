import TradingStatus.Time.Zone

/-! Zones of Africa, Australia and the Pacific, and the zones of fixed offset. Histories go back to
1970, and fixed offsets hold for all time. -/

namespace TradingStatus.ZoneRecord

/-- `Africa/Cairo`. -/
def cairo : ZoneRecord where
  first := 7200
  changes := [
    (10364400, 10800), (23587200, 7200), (41900400, 10800), (55123200, 7200), (73522800, 10800),
    (86745600, 7200), (105058800, 10800), (118281600, 7200), (136594800, 10800),
    (149817600, 7200), (168130800, 10800), (181353600, 7200), (199753200, 10800),
    (212976000, 7200), (231289200, 10800), (244512000, 7200), (262825200, 10800),
    (276048000, 7200), (294361200, 10800), (307584000, 7200), (325983600, 10800),
    (339206400, 7200), (357519600, 10800), (370742400, 7200), (396399600, 10800),
    (402278400, 7200), (426812400, 10800), (433814400, 7200), (452214000, 10800),
    (465436800, 7200), (483750000, 10800), (496972800, 7200), (515286000, 10800),
    (528508800, 7200), (546822000, 10800), (560044800, 7200), (578444400, 10800),
    (591667200, 7200), (610412400, 10800), (623203200, 7200), (641516400, 10800),
    (654739200, 7200), (673052400, 10800), (686275200, 7200), (704674800, 10800),
    (717897600, 7200), (736210800, 10800), (749433600, 7200), (767746800, 10800),
    (780969600, 7200), (799020000, 10800), (812322000, 7200), (830469600, 10800),
    (843771600, 7200), (861919200, 10800), (875221200, 7200), (893368800, 10800),
    (906670800, 7200), (925423200, 10800), (938725200, 7200), (956872800, 10800),
    (970174800, 7200), (988322400, 10800), (1001624400, 7200), (1019772000, 10800),
    (1033074000, 7200), (1051221600, 10800), (1064523600, 7200), (1083276000, 10800),
    (1096578000, 7200), (1114725600, 10800), (1128027600, 7200), (1146175200, 10800),
    (1158872400, 7200), (1177624800, 10800), (1189112400, 7200), (1209074400, 10800),
    (1219957200, 7200), (1240524000, 10800), (1250802000, 7200), (1272578400, 10800),
    (1281474000, 7200), (1284069600, 10800), (1285880400, 7200), (1400191200, 10800),
    (1403816400, 7200), (1406844000, 10800), (1411678800, 7200), (1682632800, 10800)]
  rule := .seasonal 7200 10800 ⟨4, 5, 5, 0⟩ ⟨10, 5, 4, 86400⟩

/-- `Australia/Lord_Howe`. -/
def lordHowe : ZoneRecord where
  first := 36000
  changes := [
    (352216800, 37800), (372785400, 41400), (384273000, 37800), (404839800, 41400),
    (415722600, 37800), (436289400, 41400), (447172200, 37800), (467739000, 41400),
    (478621800, 37800), (499188600, 39600), (511282800, 37800), (530033400, 39600),
    (542732400, 37800), (562087800, 39600), (574786800, 37800), (594142200, 39600),
    (606236400, 37800), (625591800, 39600), (636476400, 37800), (657041400, 39600),
    (667926000, 37800), (688491000, 39600), (699375600, 37800), (719940600, 39600),
    (731430000, 37800), (751995000, 39600), (762879600, 37800), (783444600, 39600),
    (794329200, 37800), (814894200, 39600), (828198000, 37800), (846343800, 39600),
    (859647600, 37800), (877793400, 39600), (891097200, 37800), (909243000, 39600),
    (922546800, 37800), (941297400, 39600), (953996400, 37800), (967303800, 39600),
    (985446000, 37800), (1004196600, 39600), (1017500400, 37800), (1035646200, 39600),
    (1048950000, 37800), (1067095800, 39600), (1080399600, 37800), (1099150200, 39600),
    (1111849200, 37800), (1130599800, 39600), (1143903600, 37800), (1162049400, 39600),
    (1174748400, 37800), (1193499000, 39600), (1207407600, 37800)]
  rule := .seasonal 37800 39600 ⟨10, 1, 0, 7200⟩ ⟨4, 1, 0, 7200⟩

/-- `Pacific/Apia`. -/
def apia : ZoneRecord where
  first := -39600
  changes := [
    (1285498800, -36000), (1301752800, -39600), (1316872800, -36000), (1325239200, 50400),
    (1333202400, 46800), (1348927200, 50400), (1365256800, 46800), (1380376800, 50400),
    (1396706400, 46800), (1411826400, 50400), (1428156000, 46800), (1443276000, 50400),
    (1459605600, 46800), (1474725600, 50400), (1491055200, 46800), (1506175200, 50400),
    (1522504800, 46800), (1538229600, 50400), (1554559200, 46800), (1569679200, 50400),
    (1586008800, 46800), (1601128800, 50400), (1617458400, 46800)]
  rule := .fixed 46800

/-- `Pacific/Marquesas`. -/
def marquesas : ZoneRecord where
  first := -34200
  changes := []
  rule := .fixed (-34200)

/-- `UTC`. -/
def universal : ZoneRecord where
  first := 0
  changes := []
  rule := .fixed 0

/-- `Etc/GMT+12`. -/
def dateLine : ZoneRecord where
  first := -43200
  changes := []
  rule := .fixed (-43200)

end TradingStatus.ZoneRecord
